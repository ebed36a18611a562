import Signpost.Proofs.Disk.Trace

/-!
True locations.  A path that has one takes every path that it begins with to have one, and its
true location is reached from the true location of that one.  What can be opened at a path lies at
its true location, if it has one.  A path and its normal form have one true location as long as no
link is met before a `..`.
-/

namespace Signpost

namespace Step

variable {names : List String}

theorem exists_ofPiece? {piece : String} (h : IsPiece piece) :
    ∃ step, ofPiece? piece = some step := by
  unfold ofPiece?
  rw [if_neg h.ne_empty]
  split
  · exact ⟨.stay, rfl⟩
  · split
    · exact ⟨.up, rfl⟩
    · exact ⟨.down piece, rfl⟩

theorem ofPiece?_of_isName {name : String} (h : IsName name) :
    ofPiece? name = some (.down name) := by
  simp [ofPiece?, h.ne_empty, h.ne_current, h.ne_parent]

theorem filterMap_ofPiece?_names (h : ∀ name ∈ names, IsName name) :
    names.filterMap ofPiece? = names.map .down := by
  rw [← List.filterMap_eq_map]
  exact List.filterMap_congr fun name hname => ofPiece?_of_isName (h name hname)

theorem ofPath_ofNames (hne : names ≠ []) (h : ∀ name ∈ names, IsPiece name) :
    ofPath (Path.ofNames true names) = names.filterMap ofPiece? := by
  rw [ofPath, if_neg (Path.getLast?_ofNames_true hne h), List.append_nil,
    Path.pieces_ofNames_true hne h]
  rfl

end Step

namespace Disk

variable {disk : Disk} {p : Path} {place : Location}

theorem find_eq_ok_iff {entry : Entry} :
    disk.find p = .ok (place, entry) ↔
      disk.locatePath p = .ok place ∧ disk.at? place = some entry := by
  unfold find
  cases disk.locatePath p with
  | error e => simp [bind, Except.bind]
  | ok other =>
      simp only [bind, Except.bind, Except.ok.injEq]
      constructor
      · intro h
        split at h
        · next held hheld =>
            obtain ⟨rfl, rfl⟩ := Prod.mk.inj (Except.ok.inj h)
            exact ⟨rfl, hheld⟩
        · contradiction
      · rintro ⟨rfl, hheld⟩
        rw [hheld]
        rfl

theorem leads_of_locatePath (hp : p.isAbsolute = true) (h : disk.locatePath p = .ok place) :
    disk.Leads linkBudget [] (Step.ofPath p) place := by
  rw [locatePath, hp, if_pos rfl] at h
  split at h
  · contradiction
  · split at h
    · contradiction
    · split at h
      · contradiction
      · exact leads_of_locate h

/-- What is found at an absolute path that steps lead along. -/
theorem find_of_leads {entry : Entry} (hp : p.isAbsolute = true) (hnul : '\x00' ∉ p.text.toList)
    (hsize : p.text.utf8ByteSize < pathSizeLimit)
    (h : disk.Leads linkBudget [] (Step.ofPath p) place) (hentry : disk.at? place = some entry) :
    disk.find p = .ok (place, entry) := by
  apply find_eq_ok_iff.mpr
  constructor
  · rw [locatePath, if_neg (Path.text_ne_empty hp),
      if_neg (by rwa [List.contains_iff_mem]), if_neg (Nat.not_le.mpr hsize), if_pos hp]
    exact h.locate_eq
  · exact hentry

/-! ### True locations -/

theorem canonical?_eq_some_iff :
    disk.canonical? p = some place ↔ disk.realPath p = .ok place := by
  unfold canonical?
  cases disk.realPath p with
  | ok own => simp [Except.toOption]
  | error e => simp [Except.toOption]

theorem realPath_of_isAbsolute (hp : p.isAbsolute = true) :
    disk.realPath p =
      if '\x00' ∈ p.text.toList then .error .nulInName
      else disk.trace linkBudget [] (Step.ofPath p) := by
  rw [realPath, if_neg (Path.text_ne_empty hp), if_pos hp]
  simp only [List.contains_iff_mem]

/-- An absolute path has a true location if its steps trace a way there. -/
theorem canonical?_eq_some_iff_traces (hp : p.isAbsolute = true) :
    disk.canonical? p = some place ↔
      '\x00' ∉ p.text.toList ∧ disk.Traces linkBudget [] (Step.ofPath p) place := by
  rw [canonical?_eq_some_iff, realPath_of_isAbsolute hp, ← trace_eq_ok_iff]
  by_cases hnul : '\x00' ∈ p.text.toList
  · simp [hnul]
  · simp [hnul]

/-- Something lies at a true location. -/
theorem isSome_of_canonical? (hp : p.isAbsolute = true) (h : disk.canonical? p = some place) :
    (disk.at? place).isSome :=
  ((canonical?_eq_some_iff_traces hp).mp h).2.isSome disk.standing_root

/-- What can be opened at a path lies at its true location, unless that cannot be told because a
location on the way is spelled by too long a text. -/
theorem canonical?_of_find {entry : Entry} (hp : p.isAbsolute = true)
    (h : disk.find p = .ok (place, entry)) :
    disk.canonical? p = some place ∨ disk.realPath p = .error .nameTooLong := by
  obtain ⟨hlocate, hentry⟩ := find_eq_ok_iff.mp h
  have hnul : '\x00' ∉ p.text.toList := by
    intro hin
    rw [locatePath, if_neg (Path.text_ne_empty hp),
      if_pos (List.contains_iff_mem.mpr hin)] at hlocate
    contradiction
  rcases (leads_of_locatePath hp hlocate).traces_or_nameTooLong (by simp [hentry]) with
    htraces | hlong
  · exact .inl ((canonical?_eq_some_iff_traces hp).mpr ⟨hnul, htraces⟩)
  · right
    rw [realPath_of_isAbsolute hp, if_neg hnul, hlong]

/-- Along a path of names a way is traced name by name. -/
theorem trace_ofPath_ofNames {names : List String} (h : ∀ name ∈ names, IsName name) :
    disk.trace linkBudget [] (Step.ofPath (Path.ofNames true names)) =
      disk.trace linkBudget [] (names.map .down) := by
  cases names with
  | nil =>
      have hroot : Step.ofPath (Path.ofNames true []) = [.stay] := by decide
      rw [hroot]
      exact (Traces.stay .here).trace_eq.trans Traces.here.trace_eq.symm
  | cons first rest =>
      rw [Step.ofPath_ofNames (List.cons_ne_nil first rest) fun name hname =>
        (h name hname).toIsPiece, Step.filterMap_ofPiece?_names h]

theorem realPath_names {names : List String} (h : ∀ name ∈ names, IsName name) :
    disk.realPath (Path.ofNames true names) =
      if '\x00' ∈ (Path.ofNames true names).text.toList then .error .nulInName
      else disk.trace linkBudget [] (names.map .down) := by
  rw [realPath_of_isAbsolute (Path.isAbsolute_ofNames_true names), trace_ofPath_ofNames h]

/-- A path of names has a true location if the names trace a way there. -/
theorem canonical?_names_eq_some_iff {names : List String} (h : ∀ name ∈ names, IsName name) :
    disk.canonical? (Path.ofNames true names) = some place ↔
      '\x00' ∉ (Path.ofNames true names).text.toList ∧
        disk.Traces linkBudget [] (names.map .down) place := by
  rw [canonical?_eq_some_iff_traces (Path.isAbsolute_ofNames_true names), ← trace_eq_ok_iff,
    ← trace_eq_ok_iff, trace_ofPath_ofNames h]

/-- A path that has a true location takes what it begins with to have one, and leads on from
there. -/
theorem canonical?_of_names_append {names more : List String}
    (h : ∀ name ∈ names ++ more, IsName name)
    (hplace : disk.canonical? (Path.ofNames true (names ++ more)) = some place) :
    ∃ mid fewer, fewer ≤ linkBudget ∧ disk.canonical? (Path.ofNames true names) = some mid ∧
      disk.Traces fewer mid (more.map .down) place ∧ (more ≠ [] → disk.Standing mid) := by
  obtain ⟨hnul, htraces⟩ := (canonical?_names_eq_some_iff h).mp hplace
  rw [List.map_append] at htraces
  obtain ⟨mid, fewer, hle, hfront, hback⟩ := htraces.split
  obtain ⟨own, -, -, hown, -, hstanding⟩ := htraces.leads.split disk.standing_root
  obtain rfl := hfront.leads.unique hown
  have htext := Path.text_ofNames_prefix (List.prefix_append names more)
  refine ⟨mid, fewer, hle, ?_, hback, fun hne => hstanding (by simpa using hne)⟩
  exact (canonical?_names_eq_some_iff (List.forall_mem_append.mp h).1).mpr
    ⟨fun hin => hnul (htext.mem hin), hfront⟩

/-! ### Below directories that enclose their links -/

section Encloses

variable {area : Location} {names : List String}

theorem leads_ofPath_ofNames (h : ∀ name ∈ names, IsPiece name) :
    disk.Leads linkBudget [] (Step.ofPath (Path.ofNames true names)) place ↔
      disk.Leads linkBudget [] (names.filterMap Step.ofPiece?) place := by
  cases names with
  | nil =>
      have hroot : Step.ofPath (Path.ofNames true []) = [.stay] := by decide
      rw [hroot, List.filterMap_nil]
      constructor
      · intro hstay
        cases hstay with
        | stay hleads => exact hleads
      · exact .stay
  | cons first rest => rw [Step.ofPath_ofNames (List.cons_ne_nil first rest) h]

/-- Pieces lead to what is found at their path. -/
theorem leads_of_find_ofNames {entry : Entry} (h : ∀ name ∈ names, IsPiece name)
    (hfind : disk.find (Path.ofNames true names) = .ok (place, entry)) :
    disk.Leads linkBudget [] (names.filterMap Step.ofPiece?) place ∧
      disk.at? place = some entry := by
  obtain ⟨hlocate, hentry⟩ := find_eq_ok_iff.mp hfind
  have hleads := leads_of_locatePath (Path.isAbsolute_ofNames_true names) hlocate
  exact ⟨(leads_ofPath_ofNames h).mp hleads, hentry⟩

/-- Where names lead to something it is not missing. -/
theorem find_ne_notFound (h : ∀ name ∈ names, IsName name)
    (hleads : disk.Leads linkBudget [] (names.map .down) place)
    (hthere : (disk.at? place).isSome) :
    disk.find (Path.ofNames true names) ≠ .error .notFound := by
  obtain ⟨entry, hentry⟩ := Option.isSome_iff_exists.mp hthere
  rw [← Step.filterMap_ofPiece?_names h,
    ← leads_ofPath_ofNames fun name hname => (h name hname).toIsPiece] at hleads
  have habsolute := Path.isAbsolute_ofNames_true names
  by_cases hnul : '\x00' ∈ (Path.ofNames true names).text.toList
  · rw [find, locatePath, if_neg (Path.text_ne_empty habsolute),
      if_pos (List.contains_iff_mem.mpr hnul)]
    exact nofun
  · by_cases hsize : pathSizeLimit ≤ (Path.ofNames true names).text.utf8ByteSize
    · rw [find, locatePath, if_neg (Path.text_ne_empty habsolute),
        if_neg (by rwa [List.contains_iff_mem]), if_pos hsize]
      exact nofun
    · rw [find_of_leads habsolute hnul (Nat.lt_of_not_le hsize) hleads hentry]
      exact nofun

/-- Where no link leads out, what exists lies inside if names lead down to it from there. -/
theorem Encloses.of_names (h : disk.Encloses area) {more : List String}
    (harea : disk.Leads linkBudget [] (names.map .down) area)
    (hplace : disk.Leads linkBudget [] ((names ++ more).map .down) place)
    (hthere : (disk.at? place).isSome) : area <+: place := by
  rw [List.map_append] at hplace
  obtain ⟨mid, fewer, hfewer, hmid, hleads, hstanding⟩ := hplace.split disk.standing_root
  obtain rfl := harea.unique hmid
  cases more with
  | nil =>
      cases hleads
      exact List.prefix_rfl
  | cons first rest => exact h.leads hleads hfewer (hstanding (by simp)) List.prefix_rfl hthere

/-- A file lies inside also if the last piece of its path may be no name: no file is where one
stays or goes up. -/
theorem Encloses.of_file (h : disk.Encloses area) {front : List String} {last : String}
    (hnames : ∀ name ∈ names ++ front, IsName name) (hlast : IsPiece last)
    (harea : disk.Leads linkBudget [] (names.map .down) area)
    (hplace : disk.Leads linkBudget []
      ((names ++ front ++ [last]).filterMap Step.ofPiece?) place)
    {content : ByteArray} {modified : Int}
    (hfile : disk.at? place = some (.file content modified)) : area <+: place := by
  rw [List.filterMap_append, Step.filterMap_ofPiece?_names hnames] at hplace
  obtain ⟨step, hstep⟩ := Step.exists_ofPiece? hlast
  have hsteps : [last].filterMap Step.ofPiece? = [step] := by simp [hstep]
  rw [hsteps] at hplace
  by_cases hname : ∃ name, step = .down name
  · obtain ⟨name, rfl⟩ := hname
    have hdown : (names ++ front).map Step.down ++ [.down name] =
        (names ++ (front ++ [name])).map .down := by simp
    rw [hdown] at hplace
    exact h.of_names harea hplace (by simp [hfile])
  · have hstanding := hplace.standing disk.standing_root (not_exists.mp hname)
    have hdirectory := hstanding.directory place List.prefix_rfl
    simp [hfile] at hdirectory

end Encloses

/-! ### The true location of a normal form -/

/-- No link is met before the last `..` of an absolute path. -/
def Straight (disk : Disk) (p : Path) : Prop :=
  ∃ front back stop, Step.ofPath p = front ++ back ∧ .up ∉ back ∧
    disk.locate 0 [] front = .ok stop

end Disk

namespace Path

/-- The names of a normal form are those of the location that the steps fold to. -/
theorem foldl_foldComponent_eq (pieces stack : List String) :
    ((pieces.filterMap Component.ofPiece?).foldl (foldComponent true) stack).reverse =
      (pieces.filterMap Step.ofPiece?).foldl Step.fold stack.reverse := by
  induction pieces generalizing stack with
  | nil => rfl
  | cons piece rest ih =>
      by_cases hempty : piece = ""
      · simpa [hempty, Component.ofPiece?, Step.ofPiece?] using ih stack
      · by_cases hcurrent : piece = "."
        · simpa [hcurrent, Component.ofPiece?, Step.ofPiece?, Step.fold] using ih stack
        · by_cases hparent : piece = ".."
          · cases stack with
            | nil =>
                simpa [hparent, Component.ofPiece?, Step.ofPiece?, Step.fold, foldComponent]
                  using ih []
            | cons top below =>
                simpa [hparent, Component.ofPiece?, Step.ofPiece?, Step.fold, foldComponent]
                  using ih below
          · simpa [hempty, hcurrent, hparent, Component.ofPiece?, Step.ofPiece?, Step.fold,
              foldComponent] using ih (piece :: stack)

theorem normalNames_eq_foldl {p : Path} (hp : p.isAbsolute = true) :
    p.normalNames = (Step.ofPath p).foldl Step.fold [] := by
  have hpieces := foldl_foldComponent_eq p.pieces []
  have hend : ∀ place, (if p.text.toList.getLast? = some '/' then [Step.stay] else []).foldl
      Step.fold place = place := by
    intro place
    split <;> rfl
  rw [normalNames, hp, components_of_isAbsolute hp, List.foldl_cons, Step.ofPath,
    List.foldl_append, hend]
  exact hpieces

end Path

namespace Disk

variable {disk : Disk} {place : Location}

/-- Steps of which none goes up lead down along names. -/
theorem exists_names_of_up_not_mem {steps : List Step} (h : .up ∉ steps) :
    ∃ names, steps.filter (· ≠ .stay) = names.map .down ∧
      ∀ start, steps.foldl Step.fold start = start ++ names := by
  induction steps with
  | nil => exact ⟨[], rfl, fun start => (List.append_nil start).symm⟩
  | cons step rest ih =>
      obtain ⟨names, hnames, hfold⟩ := ih (List.not_mem_of_not_mem_cons h)
      cases step with
      | stay => exact ⟨names, by simpa using hnames, hfold⟩
      | up => exact absurd List.mem_cons_self h
      | down name =>
          refine ⟨name :: names, by simpa using hnames, fun start => ?_⟩
          rw [List.foldl_cons, hfold, Step.fold, List.append_assoc]
          rfl

/-- Where no link is met before the last `..`, the names of the normal form lead to where the
path leads. -/
theorem Straight.leads {p : Path} {links : Nat} (h : disk.Straight p) (hp : p.isAbsolute = true)
    (hleads : disk.Leads links [] (Step.ofPath p) place) :
    disk.Leads links [] (p.normalNames.map .down) place := by
  obtain ⟨front, back, stop, hsteps, hup, hfront⟩ := h
  obtain ⟨names, hnames, hfold⟩ := exists_names_of_up_not_mem hup
  rw [Path.normalNames_eq_foldl hp, hsteps, List.foldl_append, hfold, List.map_append, ← hnames]
  rw [hsteps] at hleads
  exact ((leads_of_locate hfront).folded hleads disk.standing_root).without_stay

/-- The true location of such a path is that of its normal form. -/
theorem Straight.canonical?_eq {p : Path} (h : disk.Straight p) (hp : p.isAbsolute = true)
    {own : Location} (hown : disk.canonical? p = some own)
    (hplace : disk.canonical? p.normalize = some place) : own = place := by
  rw [Path.normalize_of_isAbsolute hp] at hplace
  have hnames := ((canonical?_names_eq_some_iff (Path.isName_of_mem_normalNames hp)).mp hplace).2
  have hsteps := ((canonical?_eq_some_iff_traces hp).mp hown).2
  exact (h.leads hp hsteps.leads).unique hnames.leads

end Disk

end Signpost
