import Signpost.Proofs.Disk.Ancestors

/-!
File trees that grow.  Directories and regular files that come to lie where nothing lay leave
every true location as it is, and what is not there yet is expected where it will be.  Only for
a link whose target is missing the two differ: it is taken for a name that is not there yet, and
leads elsewhere once its target is made.
-/

namespace Signpost

namespace Disk

variable {before after disk : Disk} {links : Nat} {start place : Location} {steps : List Step}
  {names front more : List String}

/-! ### Growing -/

/-- Everything lies in a directory. -/
def IsTree (disk : Disk) : Prop :=
  ∀ place name, (disk.at? (place ++ [name])).isSome → disk.at? place = some .directory

/-- What lies in `before` lies in `after`, and where there is more in `after` it is directories and
regular files. -/
structure GrowsTo (before after : Disk) : Prop where
  kept : ∀ place entry, before.at? place = some entry → after.at? place = some entry
  linkless : ∀ place target, after.at? place = some (.link target) →
    before.at? place = some (.link target)

/-- Below a place where nothing lies, nothing lies. -/
theorem IsTree.at?_append_eq_none (h : disk.IsTree) (hnone : disk.at? place = none)
    (more : List String) : disk.at? (place ++ more) = none := by
  induction more using List.reverseRecOn with
  | nil => rwa [List.append_nil]
  | append_singleton upper last ih =>
      cases hentry : disk.at? (place ++ (upper ++ [last])) with
      | none => rfl
      | some entry =>
          have hthere : (disk.at? (place ++ upper ++ [last])).isSome := by
            rw [List.append_assoc, hentry]
            rfl
          have hdirectory := h (place ++ upper) last hthere
          rw [ih] at hdirectory
          contradiction

/-- A way that could be traced leads to the same place in a tree that has grown. -/
theorem Traces.grow (htraces : before.Traces links start steps place) (h : before.GrowsTo after) :
    after.Traces links start steps place := by
  induction htraces with
  | here => exact .here
  | stay _ ih => exact .stay ih
  | up _ ih => exact .up ih
  | last hfits hat => exact .last hfits (h.kept _ _ hat)
  | into hfits hat hroom _ ih => exact .into hfits (h.kept _ _ hat) hroom ih
  | through hfits hat _ ih => exact .through hfits (h.kept _ _ hat) ih

/-- A way that ends in a directory can be gone on with from there, if no more links are met. -/
theorem Traces.append {mid : Location} {back : List Step}
    (hfront : disk.Traces links start steps mid) (hmid : disk.at? mid = some .directory)
    (hroom : spelledSize mid + 1 < pathSizeLimit) (hback : disk.Traces 0 mid back place) :
    disk.Traces links start (steps ++ back) place := by
  induction hfront with
  | here => exact hback.mono (Nat.zero_le _)
  | stay _ ih => exact .stay (ih hmid hroom hback)
  | up _ ih => exact .up (ih hmid hroom hback)
  | last _ hat =>
      rw [hmid] at hat
      simp at hat
  | @into links start mid name rest hfits hat hslash hrest ih =>
      refine .into hfits hat (fun _ => ?_) (ih hmid hroom hback)
      by_cases hne : rest = []
      · subst hne
        cases hrest
        exact hroom
      · exact hslash hne
  | through hfits hat _ ih =>
      have hrest := ih hmid hroom hback
      rw [List.append_assoc] at hrest
      exact .through hfits hat hrest

/-- A way that can be traced in a tree that has grown could be traced before, unless something was
missing. -/
theorem Traces.trace_before (htraces : after.Traces links start steps place)
    (h : before.GrowsTo after) :
    before.Traces links start steps place ∨
      before.trace links start steps = .error .notFound := by
  induction htraces with
  | here => exact .inl .here
  | stay _ ih =>
      rw [trace]
      exact ih.imp_left .stay
  | up _ ih =>
      rw [trace]
      exact ih.imp_left .up
  | @last links start name content modified hfits hat =>
      cases hentry : before.at? (start ++ [name]) with
      | none => exact .inr (trace_of_none hfits hentry)
      | some entry =>
          have hkept := h.kept _ _ hentry
          rw [hat] at hkept
          obtain rfl := Option.some.inj hkept
          exact .inl (.last hfits hentry)
  | @into links start place name rest hfits hat hroom _ ih =>
      cases hentry : before.at? (start ++ [name]) with
      | none => exact .inr (trace_of_none hfits hentry)
      | some entry =>
          have hkept := h.kept _ _ hentry
          rw [hat] at hkept
          obtain rfl := Option.some.inj hkept
          rw [trace_of_directory hfits hentry, if_pos (or_iff_not_imp_left.mpr hroom)]
          exact ih.imp_left (.into hfits hentry hroom)
  | through hfits hat _ ih =>
      have hlink := h.linkless _ _ hat
      rw [trace_of_link hfits hlink]
      exact ih.imp_left (.through hfits hlink)

theorem canonical?_grow (h : before.GrowsTo after) (hnames : ∀ name ∈ names, IsName name)
    (hplace : before.canonical? (Path.ofNames true names) = some place) :
    after.canonical? (Path.ofNames true names) = some place := by
  obtain ⟨hnul, htraces⟩ := (canonical?_names_eq_some_iff hnames).mp hplace
  exact (canonical?_names_eq_some_iff hnames).mpr ⟨hnul, htraces.grow h⟩

theorem realPath_eq_notFound_iff (hnames : ∀ name ∈ names, IsName name) :
    disk.realPath (Path.ofNames true names) = .error .notFound ↔
      '\x00' ∉ (Path.ofNames true names).text.toList ∧
        disk.trace linkBudget [] (names.map .down) = .error .notFound := by
  rw [realPath_names hnames]
  by_cases hnul : '\x00' ∈ (Path.ofNames true names).text.toList
  · rw [if_pos hnul]
    exact iff_of_false nofun fun h => h.1 hnul
  · rw [if_neg hnul]
    exact (and_iff_right hnul).symm

/-- What has a true location only in a tree that has grown was missing before. -/
theorem realPath_eq_notFound (h : before.GrowsTo after) (hnames : ∀ name ∈ names, IsName name)
    (hplace : after.canonical? (Path.ofNames true names) = some place)
    (hmissing : before.canonical? (Path.ofNames true names) = none) :
    before.realPath (Path.ofNames true names) = .error .notFound := by
  obtain ⟨hnul, htraces⟩ := (canonical?_names_eq_some_iff hnames).mp hplace
  rcases htraces.trace_before h with hbefore | herror
  · have hfound := (canonical?_names_eq_some_iff hnames).mpr ⟨hnul, hbefore⟩
    rw [hmissing] at hfound
    contradiction
  · exact (realPath_eq_notFound_iff hnames).mpr ⟨hnul, herror⟩

/-- Where nothing lay before, no link lies now: names lead straight down. -/
theorem Leads.eq_append_of_vacant {rest : List String}
    (hleads : after.Leads links start (rest.map .down) place) (h : before.GrowsTo after)
    (htree : before.IsTree) (hvacant : before.at? start = none) : place = start ++ rest := by
  induction rest generalizing links start with
  | nil =>
      cases hleads
      rw [List.append_nil]
  | cons name rest ih =>
      have hbelow : before.at? (start ++ [name]) = none := htree.at?_append_eq_none hvacant [name]
      rw [List.map_cons] at hleads
      generalize hdowns : rest.map Step.down = downs at hleads
      cases hleads with
      | last =>
          rw [List.map_eq_nil_iff.mp hdowns]
      | into _ _ hrest =>
          rw [ih (hdowns ▸ hrest) hbelow, List.append_assoc, List.singleton_append]
      | through _ hlink =>
          rw [h.linkless _ _ hlink] at hbelow
          contradiction

/-! ### Links that dangle -/

/-- Right below a path with a true location lies a link, and on the way along it something is
missing. -/
structure DanglingLink (disk : Disk) (front : List String) (name : String) (place : Location) :
    Prop where
  above : disk.canonical? (Path.ofNames true front) = some place
  link : ∃ target, disk.at? (place ++ [name]) = some (.link target)
  missing : disk.realPath (Path.ofNames true (front ++ [name])) = .error .notFound

/-- On the way along names there is a link that leads to nothing. -/
def Dangles (disk : Disk) (names : List String) : Prop :=
  ∃ front name place, front ++ [name] <+: names ∧ disk.DanglingLink front name place

/-- A way that begins with a name begins with one that can be looked up, and leads over
something. -/
theorem Traces.first {name : String} {rest : List Step}
    (h : disk.Traces links start (.down name :: rest) place) :
    Fits start name ∧ (disk.at? (start ++ [name])).isSome := by
  cases h with
  | last hfits hat => exact ⟨hfits, by simp [hat]⟩
  | into hfits hat => exact ⟨hfits, by simp [hat]⟩
  | through hfits hat => exact ⟨hfits, by simp [hat]⟩

/-- What lies in a directory with a true location has one itself, unless it is a link. -/
theorem canonical?_concat {name : String} {entry : Entry}
    (hnames : ∀ other ∈ front ++ [name], IsName other)
    (hfront : disk.canonical? (Path.ofNames true front) = some place)
    (hdirectory : disk.at? place = some .directory) (hfits : Fits place name)
    (hnul : '\x00' ∉ (Path.ofNames true (front ++ [name])).text.toList)
    (hentry : disk.at? (place ++ [name]) = some entry) (hlink : ∀ target, entry ≠ .link target) :
    disk.canonical? (Path.ofNames true (front ++ [name])) = some (place ++ [name]) := by
  obtain ⟨-, htraces⟩ :=
    (canonical?_names_eq_some_iff (List.forall_mem_append.mp hnames).1).mp hfront
  have hlast : disk.Traces 0 place [.down name] (place ++ [name]) := by
    cases entry with
    | directory => exact .into hfits hentry (fun hne => absurd rfl hne) .here
    | file content modified => exact .last hfits hentry
    | link target => exact absurd rfl (hlink target)
  refine (canonical?_names_eq_some_iff hnames).mpr ⟨hnul, ?_⟩
  rw [List.map_append]
  exact htraces.append hdirectory hfits.room hlast

/-- What has come to have a true location below the lowest ancestor with one is where it was
expected, unless a link was there that led to nothing. -/
theorem eq_append_of_canonical?_grow {first : String} {lower : List String} {stop : Location}
    (h : before.GrowsTo after) (htree : before.IsTree)
    (hnames : ∀ name ∈ front ++ first :: lower, IsName name)
    (hfront : before.canonical? (Path.ofNames true front) = some place)
    (hmissing : before.canonical? (Path.ofNames true (front ++ [first])) = none)
    (hdangling : ¬ before.DanglingLink front first place)
    (hstop : after.canonical? (Path.ofNames true (front ++ first :: lower)) = some stop) :
    stop = place ++ first :: lower := by
  obtain ⟨mid, fewer, -, hmid, htraces, hstanding⟩ := canonical?_of_names_append hnames hstop
  have hkept := canonical?_grow h (List.forall_mem_append.mp hnames).1 hfront
  obtain rfl : place = mid := Option.some.inj (hkept.symm.trans hmid)
  rw [List.map_cons] at htraces
  cases hentry : before.at? (place ++ [first]) with
  | none =>
      generalize hdowns : lower.map Step.down = downs at htraces
      cases htraces with
      | last => rw [List.map_eq_nil_iff.mp hdowns]
      | into _ _ _ hrest =>
          have hend : stop = place ++ [first] ++ lower :=
            Leads.eq_append_of_vacant (hdowns ▸ hrest.leads) h htree hentry
          rw [hend, List.append_assoc, List.singleton_append]
      | through _ hlink =>
          rw [h.linkless _ _ hlink] at hentry
          contradiction
  | some entry =>
      -- what was there had a true location, so it was a link
      exfalso
      have hfits := htraces.first.1
      rw [List.append_cons] at hnames hstop
      have hnext := (List.forall_mem_append.mp hnames).1
      obtain ⟨next, -, -, hfound, -⟩ := canonical?_of_names_append hnames hstop
      by_cases hlink : ∃ target, entry = .link target
      · obtain ⟨target, rfl⟩ := hlink
        exact hdangling ⟨hfront, ⟨target, hentry⟩, realPath_eq_notFound h hnext hfound hmissing⟩
      · obtain ⟨own, hown⟩ := Option.isSome_iff_exists.mp (isSome_of_canonical?
          (Path.isAbsolute_ofNames_true front) hfront)
        have hdirectory : before.at? place = some .directory := by
          rw [hown, ← h.kept place own hown, (hstanding (by simp)).directory place List.prefix_rfl]
        have hnul := ((canonical?_names_eq_some_iff hnext).mp hfound).1
        have hthere := canonical?_concat hnext hfront hdirectory hfits hnul hentry
          (not_exists.mp hlink)
        rw [hmissing] at hthere
        contradiction

theorem Dangles.mono (hdangles : disk.Dangles names) : disk.Dangles (names ++ more) := by
  obtain ⟨front, name, place, hwithin, hlink⟩ := hdangles
  exact ⟨front, name, place, hwithin.trans (List.prefix_append names more), hlink⟩

/-- The location of a path stays the same while the tree grows, unless a link that leads to
nothing is on the way. -/
theorem canonicalAncestor?_grow (h : before.GrowsTo after) (htree : before.IsTree)
    (hnames : ∀ name ∈ names, IsName name) (hdangles : ¬ before.Dangles names) :
    after.canonicalAncestor? (Path.ofNames true names) =
      before.canonicalAncestor? (Path.ofNames true names) := by
  obtain ⟨front, more, place, rfl, hbefore⟩ := before.exists_deepest hnames
  obtain ⟨lower, rest, stop, hsplit, hafter⟩ := after.exists_deepest hnames
  have hfound := canonical?_grow h (List.forall_mem_append.mp hnames).1 hbefore.found
  have hlocation := hafter.canonicalAncestor?_eq (hsplit ▸ hnames)
  rw [hbefore.canonicalAncestor?_eq hnames, hsplit, hlocation]
  rcases List.append_eq_append_iff.mp hsplit with ⟨between, rfl, rfl⟩ | ⟨between, rfl, rfl⟩
  · cases between with
    | nil =>
        have hsame := hafter.found
        rw [List.append_nil, hfound] at hsame
        rw [Option.some.inj hsame, List.nil_append]
    | cons first others =>
        have hnext : [first] <+: first :: others ++ rest := by simp
        have hmissing := hbefore.missing [first] (by simp) hnext
        have hwhole : ∀ name ∈ front ++ first :: others, IsName name := by
          rw [hsplit] at hnames
          exact (List.forall_mem_append.mp hnames).1
        have hdangling : ¬ before.DanglingLink front first place := fun hlink =>
          hdangles ⟨front, first, place, (List.prefix_append_right_inj front).mpr hnext, hlink⟩
        rw [eq_append_of_canonical?_grow h htree hwhole hbefore.found hmissing hdangling
          hafter.found, List.append_assoc]
  · cases between with
    | nil =>
        have hsame := hafter.found
        rw [List.append_nil] at hfound
        rw [hfound] at hsame
        rw [Option.some.inj hsame, List.nil_append]
    | cons first others =>
        have hnone := hafter.missing (first :: others) (by simp) (List.prefix_append _ more)
        rw [hfound] at hnone
        contradiction

/-! ### A directory made where a link leads -/

theorem at?_put_self (hplace : place ≠ []) (entry : Entry) :
    (disk.put place entry).at? place = some entry := by
  rw [at?, if_neg hplace, listed?_put_self]

theorem at?_put_of_ne {other : Location} (hother : other ≠ place) (entry : Entry) :
    (disk.put place entry).at? other = disk.at? other := by
  rw [at?, at?, listed?_put_of_ne disk entry hother]

theorem ne_nil_of_at?_eq_none (hvacant : disk.at? place = none) : place ≠ [] := by
  rintro rfl
  rw [at?, if_pos rfl] at hvacant
  contradiction

theorem growsTo_put (hvacant : disk.at? place = none) :
    disk.GrowsTo (disk.put place .directory) := by
  constructor
  · intro other entry hentry
    have hother : other ≠ place := by
      rintro rfl
      rw [hvacant] at hentry
      contradiction
    rw [at?_put_of_ne hother, hentry]
  · intro other target htarget
    by_cases hother : other = place
    · rw [hother, at?_put_self (ne_nil_of_at?_eq_none hvacant)] at htarget
      simp at htarget
    · rwa [at?_put_of_ne hother] at htarget

/-- A walk on which something is missing leads to where nothing lies, and its way can be traced once
there is a directory. -/
theorem Leads.vacant_and_traces {stop : Location} (hleads : disk.Leads links start steps stop)
    (hmissing : disk.trace links start steps = .error .notFound) :
    disk.at? stop = none ∧ ∀ after, disk.GrowsTo after → after.at? stop = some .directory →
      after.Traces links start steps stop := by
  induction hleads with
  | here =>
      rw [trace] at hmissing
      contradiction
  | stay _ ih =>
      rw [trace] at hmissing
      obtain ⟨hvacant, htraces⟩ := ih hmissing
      exact ⟨hvacant, fun after h hstop => .stay (htraces after h hstop)⟩
  | up _ ih =>
      rw [trace] at hmissing
      obtain ⟨hvacant, htraces⟩ := ih hmissing
      exact ⟨hvacant, fun after h hstop => .up (htraces after h hstop)⟩
  | @last links start name hshort hat =>
      by_cases hfits : Fits start name
      · rcases hat with hnone | ⟨content, modified, hfile⟩
        · exact ⟨hnone, fun after _ hstop => .into hfits hstop (fun hne => absurd rfl hne) .here⟩
        · rw [trace_of_file hfits hfile] at hmissing
          contradiction
      · rw [trace_of_not_fits hfits] at hmissing
        contradiction
  | @into links start stop name rest hshort hat _ ih =>
      by_cases hfits : Fits start name
      · rw [trace_of_directory hfits hat] at hmissing
        split at hmissing
        · next hroom =>
            obtain ⟨hvacant, htraces⟩ := ih hmissing
            exact ⟨hvacant, fun after h hstop => .into hfits (h.kept _ _ hat)
              (fun hne => hroom.resolve_left hne) (htraces after h hstop)⟩
        · contradiction
      · rw [trace_of_not_fits hfits] at hmissing
        contradiction
  | @through links start stop name target rest hshort hat _ ih =>
      by_cases hfits : Fits start name
      · rw [trace_of_link hfits hat] at hmissing
        obtain ⟨hvacant, htraces⟩ := ih hmissing
        exact ⟨hvacant, fun after h hstop => .through hfits (h.kept _ _ hat)
          (htraces after h hstop)⟩
      · rw [trace_of_not_fits hfits] at hmissing
        contradiction

section DanglingLink

variable {name : String} {rest : List String} {stop : Location}

theorem DanglingLink.deepest (hlink : disk.DanglingLink front name place)
    (hnames : ∀ other ∈ front ++ name :: rest, IsName other) :
    disk.Deepest front (name :: rest) place := by
  apply deepest_cons hnames hlink.above
  rw [canonical?, hlink.missing]
  rfl

/-- Nothing lies where the link leads, and once there is a directory that is where it leads. -/
theorem DanglingLink.made (hlink : disk.DanglingLink front name place)
    (hnames : ∀ other ∈ front ++ [name], IsName other)
    (hstop : disk.locate linkBudget [] ((front ++ [name]).map .down) = .ok stop) :
    disk.at? stop = none ∧
      (disk.put stop .directory).canonical? (Path.ofNames true (front ++ [name])) = some stop := by
  obtain ⟨hnul, hmissing⟩ := (realPath_eq_notFound_iff hnames).mp hlink.missing
  obtain ⟨hvacant, htraces⟩ := (leads_of_locate hstop).vacant_and_traces hmissing
  refine ⟨hvacant, (canonical?_names_eq_some_iff hnames).mpr ⟨hnul, ?_⟩⟩
  exact htraces _ (growsTo_put hvacant) (at?_put_self (ne_nil_of_at?_eq_none hvacant) .directory)

/-- Once there is a directory where the link leads, that is where the path leads. -/
theorem DanglingLink.deepest_put (hlink : disk.DanglingLink front name place)
    (htree : disk.IsTree) (hnames : ∀ other ∈ front ++ name :: rest, IsName other)
    (hstop : disk.locate linkBudget [] ((front ++ [name]).map .down) = .ok stop) :
    (disk.put stop .directory).Deepest (front ++ [name]) rest stop := by
  rw [List.append_cons] at hnames
  obtain ⟨hvacant, hfound⟩ := hlink.made (List.forall_mem_append.mp hnames).1 hstop
  cases rest with
  | nil => exact deepest_nil hfound
  | cons first below =>
      apply deepest_cons hnames hfound
      have hnext : ∀ other ∈ front ++ [name] ++ [first], IsName other := by
        rw [List.append_cons] at hnames
        exact (List.forall_mem_append.mp hnames).1
      cases hend : (disk.put stop .directory).canonical?
          (Path.ofNames true (front ++ [name] ++ [first])) with
      | none => rfl
      | some last =>
          -- nothing lies below the new directory
          have hbelow : (disk.put stop .directory).at? (stop ++ [first]) = none := by
            rw [at?_put_of_ne (by simp)]
            exact htree.at?_append_eq_none hvacant [first]
          obtain ⟨mid, fewer, -, hmid, htraces, -⟩ := canonical?_of_names_append hnext hend
          obtain rfl : stop = mid := Option.some.inj (hfound.symm.trans hmid)
          have hfirst := htraces.first.2
          rw [hbelow] at hfirst
          contradiction

end DanglingLink

/-! ### Verdicts -/

variable {root p : Path}

/-- What is let through does not depend on what does not exist yet, as long as no link on the way
leads to nothing.  Such a link is judged by the directory that it lies in, wherever it leads; once
its target is there it is judged by that. -/
theorem confine_grow (htree : disk.IsTree) (hroot : root.isAbsolute = true)
    (hp : p.isAbsolute = true) :
    (¬ disk.Dangles p.normalNames → ∀ after, disk.GrowsTo after →
      after.confine (some root) p = disk.confine (some root) p) ∧
      ∀ front name rest place stop, p.normalNames = front ++ name :: rest →
        root.normalNames <+: front → disk.DanglingLink front name place →
        disk.locate linkBudget [] ((front ++ [name]).map .down) = .ok stop →
        ∃ rootPlace, disk.canonical? root.normalize = some rootPlace ∧
          (disk.confine (some root) p = .ok p.normalize ↔ rootPlace <+: place ++ name :: rest) ∧
          disk.GrowsTo (disk.put stop .directory) ∧
          ((disk.put stop .directory).confine (some root) p = .ok p.normalize ↔
            rootPlace <+: stop ++ rest) := by
  have hnames := Path.isName_of_mem_normalNames hp
  constructor
  · intro hdangles after h
    apply confine_congr hp hroot
    rintro names ⟨more, hmore⟩
    rw [← hmore] at hnames hdangles
    exact canonicalAncestor?_grow h htree (List.forall_mem_append.mp hnames).1
      fun hfront => hdangles hfront.mono
  · intro front name rest place stop hsplit hfront hlink hstop
    have hwithin : root.normalNames <+: p.normalNames := by
      rw [hsplit]
      exact hfront.trans (List.prefix_append front _)
    rw [hsplit] at hnames
    have hlinked : ∀ other ∈ front ++ [name], IsName other := by
      rw [List.append_cons] at hnames
      exact (List.forall_mem_append.mp hnames).1
    have hgrows := growsTo_put (hlink.made hlinked hstop).1
    obtain ⟨upper, hupper⟩ := hfront
    have hfrontNames : ∀ other ∈ root.normalNames ++ upper, IsName other := by
      rw [hupper]
      exact (List.forall_mem_append.mp hnames).1
    obtain ⟨rootPlace, -, -, hrootPlace, -⟩ :=
      canonical?_of_names_append hfrontNames (hupper ▸ hlink.above)
    have hkept := canonical?_grow hgrows (List.forall_mem_append.mp hfrontNames).1 hrootPlace
    rw [← Path.normalize_of_isAbsolute hroot] at hrootPlace hkept
    refine ⟨rootPlace, hrootPlace, ?_, hgrows, ?_⟩
    · apply confine_eq_ok_iff hp hroot hwithin _ (canonicalAncestor?_of_canonical? hrootPlace)
      rw [Path.normalize_of_isAbsolute hp, hsplit]
      exact (hlink.deepest hnames).canonicalAncestor?_eq hnames
    · apply confine_eq_ok_iff hp hroot hwithin _ (canonicalAncestor?_of_canonical? hkept)
      have hdeepest := hlink.deepest_put htree hnames hstop
      rw [List.append_cons] at hnames
      rw [Path.normalize_of_isAbsolute hp, hsplit, List.append_cons]
      exact hdeepest.canonicalAncestor?_eq hnames

/-- A directory `/in` with a link to `/out`, where nothing lies. -/
def danglingDisk : Disk where
  listed? place :=
    if place = ["in"] then some .directory
    else if place = ["in", "link"] then some (.link ⟨"/out"⟩)
    else none
  here := []

theorem isTree_danglingDisk : danglingDisk.IsTree := by
  intro place name hthere
  rw [at?, if_neg (by simp), danglingDisk] at hthere
  by_cases hin : place ++ [name] = [] ++ ["in"]
  · rw [(List.append_inj' hin rfl).1]
    rfl
  · by_cases hlink : place ++ [name] = ["in"] ++ ["link"]
    · rw [(List.append_inj' hlink rfl).1]
      rfl
    · rw [List.nil_append] at hin
      rw [List.singleton_append] at hlink
      simp [hin, hlink] at hthere

theorem eq_of_link_danglingDisk {target : Path}
    (h : danglingDisk.at? place = some (.link target)) : place = ["in", "link"] := by
  unfold at? danglingDisk at h
  dsimp only at h
  split at h
  · simp at h
  · split at h
    · simp at h
    · split at h
      · assumption
      · contradiction

theorem isName_danglingDisk : ∀ name ∈ ["in", "link"], IsName name :=
  Path.isName_of_mem_normalNames (show Path.isAbsolute ⟨"/in/link"⟩ = true by decide)

theorem locate_danglingDisk :
    danglingDisk.locate linkBudget [] (["in", "link"].map .down) = .ok ["out"] := by
  have htarget : danglingDisk.Leads 39 [] (Step.ofPath ⟨"/out"⟩ ++ []) ["out"] := by
    have hsteps : Step.ofPath ⟨"/out"⟩ ++ [] = [.down "out"] := by decide
    rw [hsteps]
    exact Leads.last (by decide) (Or.inl rfl)
  have hlink : danglingDisk.Leads 40 ["in"] [.down "link"] ["out"] :=
    .through (by decide) rfl htarget
  exact (Leads.into (by decide) rfl hlink).locate_eq

theorem danglingLink_danglingDisk : danglingDisk.DanglingLink ["in"] "link" ["in"] where
  above := by cbv
  link := ⟨⟨"/out"⟩, rfl⟩
  missing := by
    refine (realPath_eq_notFound_iff isName_danglingDisk).mpr ⟨by decide, ?_⟩
    have hin : danglingDisk.at? ([] ++ ["in"]) = some .directory := rfl
    have hlink : danglingDisk.at? (["in"] ++ ["link"]) = some (.link ⟨"/out"⟩) := rfl
    have htarget : Step.ofPath ⟨"/out"⟩ ++ [] = [.down "out"] := by decide
    simp only [List.map_cons, List.map_nil]
    rw [trace_of_directory ⟨by decide, by decide⟩ hin, if_pos (.inr (by decide))]
    show danglingDisk.trace (39 + 1) ["in"] [.down "link"] = .error .notFound
    rw [trace_of_link ⟨by decide, by decide⟩ hlink, htarget]
    exact trace_of_none ⟨by decide, by decide⟩ rfl

/-- The link is on the way to `/in/link/x` and not on the way to `/in/x`. -/
theorem confine_grow_danglingDisk :
    danglingDisk.IsTree ∧ Path.isAbsolute ⟨"/in"⟩ = true ∧
      Path.isAbsolute ⟨"/in/./link/x"⟩ = true ∧ Path.isAbsolute ⟨"/in/x"⟩ = true ∧
      danglingDisk.GrowsTo (danglingDisk.put ["out"] .directory) ∧
      danglingDisk.confine (some ⟨"/in"⟩) ⟨"/in/./link/x"⟩ = .ok ⟨"/in/link/x"⟩ ∧
      (danglingDisk.put ["out"] .directory).confine (some ⟨"/in"⟩) ⟨"/in/./link/x"⟩ ≠
        .ok ⟨"/in/link/x"⟩ ∧
      (danglingDisk.put ["out"] .directory).confine (some ⟨"/in"⟩) ⟨"/in/x"⟩ =
        danglingDisk.confine (some ⟨"/in"⟩) ⟨"/in/x"⟩ := by
  have hroot : Path.isAbsolute ⟨"/in"⟩ = true := by decide
  have hlinked : Path.isAbsolute ⟨"/in/./link/x"⟩ = true := by decide
  have hclean : Path.isAbsolute ⟨"/in/x"⟩ = true := by decide
  have hnormal : Path.normalize ⟨"/in/./link/x"⟩ = ⟨"/in/link/x"⟩ := by decide
  have hnone : ¬ danglingDisk.Dangles (Path.normalNames ⟨"/in/x"⟩) := by
    rintro ⟨front, name, place, hwithin, hdangling⟩
    obtain ⟨target, htarget⟩ := hdangling.link
    have hlast := congrArg List.getLast? (eq_of_link_danglingDisk htarget)
    have hmem := hwithin.mem (List.mem_append_right front (List.mem_singleton_self name))
    rw [List.getLast?_concat] at hlast
    rw [Option.some.inj hlast] at hmem
    exact absurd hmem (by decide)
  obtain ⟨rootPlace, hrootPlace, hbefore, hgrows, hafter⟩ :=
    (confine_grow isTree_danglingDisk hroot hlinked).2 ["in"] "link" ["x"] ["in"] ["out"]
      (by decide) (by decide) danglingLink_danglingDisk locate_danglingDisk
  obtain rfl : rootPlace = ["in"] :=
    Option.some.inj (hrootPlace.symm.trans danglingLink_danglingDisk.above)
  rw [hnormal] at hbefore hafter
  exact ⟨isTree_danglingDisk, hroot, hlinked, hclean, hgrows, hbefore.mpr (by decide),
    mt hafter.mp (by decide),
    (confine_grow isTree_danglingDisk hroot hclean).1 hnone _ hgrows⟩

/-- The link that leads out of `/in` is let through as long as there is no `/out`. -/
theorem link_out_let_through :
    danglingDisk.GrowsTo (danglingDisk.put ["out"] .directory) ∧
      danglingDisk.confine (some ⟨"/in"⟩) ⟨"/in/link"⟩ = .ok ⟨"/in/link"⟩ ∧
      (danglingDisk.put ["out"] .directory).confine (some ⟨"/in"⟩) ⟨"/in/link"⟩ =
        .error (.linkOutsideRoot ⟨"/in/link"⟩) := by
  have hroot : Path.isAbsolute ⟨"/in"⟩ = true := by decide
  have hp : Path.isAbsolute ⟨"/in/link"⟩ = true := by decide
  have hwithin : Path.normalNames ⟨"/in"⟩ <+: Path.normalNames ⟨"/in/link"⟩ := by decide
  have hgrows : danglingDisk.GrowsTo (danglingDisk.put ["out"] .directory) := growsTo_put rfl
  have habove := danglingLink_danglingDisk.above
  have hkept := canonical?_grow hgrows
    (fun name hname => isName_danglingDisk name (List.mem_of_mem_take (i := 1) hname)) habove
  have hbefore := (danglingLink_danglingDisk.deepest isName_danglingDisk).canonicalAncestor?_eq
    isName_danglingDisk
  have hafter := (danglingLink_danglingDisk.deepest_put isTree_danglingDisk isName_danglingDisk
    locate_danglingDisk).canonicalAncestor?_eq isName_danglingDisk
  have hverdict := confine_eq hp hroot hwithin hbefore (canonicalAncestor?_of_canonical? habove)
  have hlater := confine_eq hp hroot hwithin hafter (canonicalAncestor?_of_canonical? hkept)
  exact ⟨hgrows, hverdict.trans (if_pos (by decide)), hlater.trans (if_neg (by decide))⟩

end Disk

end Signpost
