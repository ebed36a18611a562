import Signpost.Proofs.Disk.Walk

/-!
Walks that look every location up by its own text.  Such a walk leads where the walk along its
steps alone does; but it fails where something is missing at its end, and where a location on the
way is spelled by too long a text.
-/

namespace Signpost

namespace Disk

variable {disk before after : Disk} {links : Nat} {start place : Location} {steps : List Step}
  {name : String}

/-- A name can be looked up in a directory: neither it nor the text of its location is too long. -/
structure Fits (start : Location) (name : String) : Prop where
  short : name.utf8ByteSize ≤ maxNameSize
  spelled : spelledSize (start ++ [name]) < pathSizeLimit

theorem fits_iff :
    ¬ (maxNameSize < name.utf8ByteSize ∨ pathSizeLimit ≤ spelledSize (start ++ [name])) ↔
      Fits start name := by
  rw [not_or, Nat.not_lt, Nat.not_le]
  exact ⟨fun ⟨hname, htext⟩ => ⟨hname, htext⟩, fun hfits => ⟨hfits.short, hfits.spelled⟩⟩

theorem spelledSize_concat (hne : start ≠ []) (name : String) :
    spelledSize (start ++ [name]) = spelledSize start + 1 + name.utf8ByteSize := by
  have htext : (Path.ofNames true (start ++ [name])).text =
      (Path.ofNames true start).text ++ "/" ++ name := by
    rw [← String.toList_inj, Path.toList_ofNames_true, List.map_append, List.map_singleton,
      Path.intercalate_concat _ _ (by simpa using hne)]
    simp [String.toList_append, Path.toList_ofNames_true]
  rw [spelledSize, htext, String.utf8ByteSize_append, String.utf8ByteSize_append]
  rfl

/-- Where a name can be looked up, a slash can be put behind the text of the directory. -/
theorem Fits.room (h : Fits start name) : spelledSize start + 1 < pathSizeLimit := by
  by_cases hne : start = []
  · rw [hne]
    decide
  · have htext := h.spelled
    rw [spelledSize_concat hne] at htext
    omega

/-! ### One step of a way -/

section Step

variable {rest : List Step}

theorem trace_of_not_fits (h : ¬ Fits start name) :
    disk.trace links start (.down name :: rest) = .error .nameTooLong := by
  rw [trace, if_pos (not_imp_comm.mp fits_iff.mp h)]

theorem trace_of_none (hfits : Fits start name) (hat : disk.at? (start ++ [name]) = none) :
    disk.trace links start (.down name :: rest) = .error .notFound := by
  rw [trace, if_neg (fits_iff.mpr hfits)]
  simp [hat]

theorem trace_of_file {content : ByteArray} {modified : Int} (hfits : Fits start name)
    (hat : disk.at? (start ++ [name]) = some (.file content modified)) :
    disk.trace links start [.down name] = .ok (start ++ [name]) := by
  rw [trace, if_neg (fits_iff.mpr hfits)]
  simp [hat]

theorem trace_of_directory (hfits : Fits start name)
    (hat : disk.at? (start ++ [name]) = some .directory) :
    disk.trace links start (.down name :: rest) =
      if rest = [] ∨ spelledSize (start ++ [name]) + 1 < pathSizeLimit then
        disk.trace links (start ++ [name]) rest
      else .error .nameTooLong := by
  rw [trace, if_neg (fits_iff.mpr hfits)]
  simp only [hat]

theorem trace_of_link {target : Path} (hfits : Fits start name)
    (hat : disk.at? (start ++ [name]) = some (.link target)) :
    disk.trace (links + 1) start (.down name :: rest) =
      disk.trace links (if target.isAbsolute then [] else start) (Step.ofPath target ++ rest) := by
  rw [trace, if_neg (fits_iff.mpr hfits)]
  simp only [hat]

end Step

/-! ### Ways that come to an end -/

/-- The steps trace a way from a location to something at another one, over so many links at
most. -/
inductive Traces (disk : Disk) : Nat → Location → List Step → Location → Prop where
  | here {links : Nat} {start : Location} : Traces disk links start [] start
  | stay {links : Nat} {start place : Location} {rest : List Step}
      (h : Traces disk links start rest place) : Traces disk links start (.stay :: rest) place
  | up {links : Nat} {start place : Location} {rest : List Step}
      (h : Traces disk links start.dropLast rest place) :
      Traces disk links start (.up :: rest) place
  | last {links : Nat} {start : Location} {name : String} {content : ByteArray} {modified : Int}
      (hfits : Fits start name) (hat : disk.at? (start ++ [name]) = some (.file content modified)) :
      Traces disk links start [.down name] (start ++ [name])
  | into {links : Nat} {start place : Location} {name : String} {rest : List Step}
      (hfits : Fits start name) (hat : disk.at? (start ++ [name]) = some .directory)
      (hroom : rest ≠ [] → spelledSize (start ++ [name]) + 1 < pathSizeLimit)
      (h : Traces disk links (start ++ [name]) rest place) :
      Traces disk links start (.down name :: rest) place
  | through {links : Nat} {start place : Location} {name : String} {target : Path}
      {rest : List Step} (hfits : Fits start name)
      (hat : disk.at? (start ++ [name]) = some (.link target))
      (h : Traces disk links (if target.isAbsolute then [] else start)
        (Step.ofPath target ++ rest) place) :
      Traces disk (links + 1) start (.down name :: rest) place

theorem traces_of_trace (h : disk.trace links start steps = .ok place) :
    disk.Traces links start steps place := by
  fun_induction disk.trace links start steps with
  | case1 =>
      obtain rfl := Except.ok.inj h
      exact .here
  | case2 links start rest ih => exact .stay (ih h)
  | case3 links start rest ih => exact .up (ih h)
  | case4 => contradiction
  | case5 => contradiction
  | case6 links start name rest next hfits hdirectory hroom ih =>
      exact .into (fits_iff.mp hfits) hdirectory (fun hne => hroom.resolve_left hne) (ih h)
  | case7 => contradiction
  | case8 links start name rest next hfits content modified hfile hrest =>
      obtain rfl := List.isEmpty_iff.mp hrest
      obtain rfl := Except.ok.inj h
      exact .last (fits_iff.mp hfits) hfile
  | case9 => contradiction
  | case10 => contradiction
  | case11 start name rest next hfits target hlink fewer origin ih =>
      exact .through (fits_iff.mp hfits) hlink (ih h)

theorem Traces.trace_eq (h : disk.Traces links start steps place) :
    disk.trace links start steps = .ok place := by
  induction h with
  | here => rw [trace]
  | stay h ih => rw [trace, ih]
  | up h ih => rw [trace, ih]
  | last hfits hat => exact trace_of_file hfits hat
  | into hfits hat hroom h ih =>
      rw [trace_of_directory hfits hat, if_pos (or_iff_not_imp_left.mpr hroom), ih]
  | through hfits hat h ih => rw [trace_of_link hfits hat, ih]

/-- The relation says what tracing a way does. -/
theorem trace_eq_ok_iff :
    disk.trace links start steps = .ok place ↔ disk.Traces links start steps place :=
  ⟨traces_of_trace, Traces.trace_eq⟩

/-- A way that can be traced can be walked. -/
theorem Traces.leads (h : disk.Traces links start steps place) :
    disk.Leads links start steps place := by
  induction h with
  | here => exact .here
  | stay _ ih => exact .stay ih
  | up _ ih => exact .up ih
  | last hfits hat => exact .last hfits.short (Or.inr ⟨_, _, hat⟩)
  | into hfits hat _ _ ih => exact .into hfits.short hat ih
  | through hfits hat _ ih => exact .through hfits.short hat ih

/-- A way that some links are enough for is the same where there are more. -/
theorem Traces.mono {more : Nat} (h : disk.Traces links start steps place) (hle : links ≤ more) :
    disk.Traces more start steps place := by
  induction h generalizing more with
  | here => exact .here
  | stay _ ih => exact .stay (ih hle)
  | up _ ih => exact .up (ih hle)
  | last hfits hat => exact .last hfits hat
  | into hfits hat hroom _ ih => exact .into hfits hat hroom (ih hle)
  | through hfits hat _ ih =>
      obtain ⟨fewer, rfl⟩ := Nat.exists_eq_add_one.mpr (Nat.lt_of_lt_of_le (Nat.succ_pos _) hle)
      exact .through hfits hat (ih (Nat.le_of_succ_le_succ hle))

/-- A way that can be traced ends at something, if it starts in a directory. -/
theorem Traces.isSome (h : disk.Traces links start steps place) (hstart : disk.Standing start) :
    (disk.at? place).isSome := by
  induction h with
  | here => simp [hstart.directory _ List.prefix_rfl]
  | stay _ ih => exact ih hstart
  | up _ ih => exact ih hstart.dropLast
  | last _ hat => simp [hat]
  | into hfits hat _ _ ih => exact ih (hstart.down hfits.short hat)
  | through _ _ _ ih => exact ih (hstart.origin _)

/-- A walk to something can be traced, unless a text is too long. -/
theorem Leads.traces_or_nameTooLong (h : disk.Leads links start steps place)
    (hplace : (disk.at? place).isSome) :
    disk.Traces links start steps place ∨
      disk.trace links start steps = .error .nameTooLong := by
  induction h with
  | here => exact .inl .here
  | stay _ ih =>
      rw [trace]
      exact (ih hplace).imp_left .stay
  | up _ ih =>
      rw [trace]
      exact (ih hplace).imp_left .up
  | @last links start name hshort hat =>
      by_cases hfits : Fits start name
      · rcases hat with hnone | ⟨content, modified, hfile⟩
        · simp [hnone] at hplace
        · exact .inl (.last hfits hfile)
      · exact .inr (trace_of_not_fits hfits)
  | @into links start place name rest hshort hat _ ih =>
      by_cases hfits : Fits start name
      · rw [trace_of_directory hfits hat]
        split
        · next hroom =>
            exact (ih hplace).imp_left (.into hfits hat fun hne => hroom.resolve_left hne)
        · exact .inr rfl
      · exact .inr (trace_of_not_fits hfits)
  | @through links start place name target rest hshort hat _ ih =>
      by_cases hfits : Fits start name
      · rw [trace_of_link hfits hat]
        exact (ih hplace).imp_left (.through hfits hat)
      · exact .inr (trace_of_not_fits hfits)

/-- A way that can be traced can be stopped on the way. -/
theorem Traces.split {front back : List Step}
    (h : disk.Traces links start (front ++ back) place) :
    ∃ mid fewer, fewer ≤ links ∧ disk.Traces links start front mid ∧
      disk.Traces fewer mid back place := by
  generalize hsteps : front ++ back = steps at h
  induction h generalizing front with
  | here =>
      obtain ⟨rfl, rfl⟩ := List.append_eq_nil_iff.mp hsteps
      exact ⟨_, _, Nat.le_refl _, .here, .here⟩
  | stay h ih =>
      rcases List.append_eq_cons_iff.mp hsteps with ⟨rfl, rfl⟩ | ⟨front, rfl, hrest⟩
      · exact ⟨_, _, Nat.le_refl _, .here, .stay h⟩
      · obtain ⟨mid, fewer, hle, hfront, hback⟩ := ih hrest.symm
        exact ⟨mid, fewer, hle, .stay hfront, hback⟩
  | up h ih =>
      rcases List.append_eq_cons_iff.mp hsteps with ⟨rfl, rfl⟩ | ⟨front, rfl, hrest⟩
      · exact ⟨_, _, Nat.le_refl _, .here, .up h⟩
      · obtain ⟨mid, fewer, hle, hfront, hback⟩ := ih hrest.symm
        exact ⟨mid, fewer, hle, .up hfront, hback⟩
  | last hfits hat =>
      rcases List.append_eq_cons_iff.mp hsteps with ⟨rfl, rfl⟩ | ⟨front, rfl, hrest⟩
      · exact ⟨_, _, Nat.le_refl _, .here, .last hfits hat⟩
      · obtain ⟨rfl, rfl⟩ := List.append_eq_nil_iff.mp hrest.symm
        exact ⟨_, _, Nat.le_refl _, .last hfits hat, .here⟩
  | into hfits hat hroom h ih =>
      rcases List.append_eq_cons_iff.mp hsteps with ⟨rfl, rfl⟩ | ⟨front, rfl, hrest⟩
      · exact ⟨_, _, Nat.le_refl _, .here, .into hfits hat hroom h⟩
      · obtain ⟨mid, fewer, hle, hfront, hback⟩ := ih hrest.symm
        refine ⟨mid, fewer, hle, .into hfits hat ?_ hfront, hback⟩
        intro hne
        apply hroom
        rw [hrest]
        exact List.append_ne_nil_of_left_ne_nil hne back
  | @through links start place name target rest hfits hat h ih =>
      rcases List.append_eq_cons_iff.mp hsteps with ⟨rfl, rfl⟩ | ⟨front, rfl, hrest⟩
      · exact ⟨_, _, Nat.le_refl _, .here, .through hfits hat h⟩
      · have hsame : (Step.ofPath target ++ front) ++ back = Step.ofPath target ++ rest := by
          rw [List.append_assoc, hrest]
        obtain ⟨mid, fewer, hle, hfront, hback⟩ := ih hsame
        exact ⟨mid, fewer, Nat.le_succ_of_le hle, .through hfits hat hfront, hback⟩

end Disk

end Signpost
