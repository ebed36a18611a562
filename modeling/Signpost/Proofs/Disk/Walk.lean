import Signpost.Disk
import Signpost.Proofs.Path.Normal

/-!
Walks through a file tree.  A walk that comes to an end can be stopped on the way: it stands
in a directory then, and what is left of it leads from there to the same end.  So a path is
true only if what it begins with is.
-/

namespace Signpost

/-- Where a step leads from a location if nothing that lies there is looked at. -/
def Step.fold (start : Location) : Step → Location
  | stay => start
  | up => start.dropLast
  | down name => start ++ [name]

namespace Disk

/-- The steps lead from a location to another one, over so many links at most. -/
inductive Leads (disk : Disk) : Nat → Location → List Step → Location → Prop where
  | here {links : Nat} {start : Location} : Leads disk links start [] start
  | stay {links : Nat} {start place : Location} {rest : List Step}
      (h : Leads disk links start rest place) : Leads disk links start (.stay :: rest) place
  | up {links : Nat} {start place : Location} {rest : List Step}
      (h : Leads disk links start.dropLast rest place) : Leads disk links start (.up :: rest) place
  | last {links : Nat} {start : Location} {name : String}
      (hshort : name.utf8ByteSize ≤ maxNameSize)
      (hat : disk.at? (start ++ [name]) = none ∨
        ∃ content modified, disk.at? (start ++ [name]) = some (.file content modified)) :
      Leads disk links start [.down name] (start ++ [name])
  | into {links : Nat} {start place : Location} {name : String} {rest : List Step}
      (hshort : name.utf8ByteSize ≤ maxNameSize)
      (hat : disk.at? (start ++ [name]) = some .directory)
      (h : Leads disk links (start ++ [name]) rest place) :
      Leads disk links start (.down name :: rest) place
  | through {links : Nat} {start place : Location} {name : String} {target : Path}
      {rest : List Step} (hshort : name.utf8ByteSize ≤ maxNameSize)
      (hat : disk.at? (start ++ [name]) = some (.link target))
      (h : Leads disk links (if target.isAbsolute then [] else start)
        (Step.ofPath target ++ rest) place) :
      Leads disk (links + 1) start (.down name :: rest) place

variable {disk : Disk} {links : Nat} {start place : Location} {steps : List Step}

theorem leads_of_locate (h : disk.locate links start steps = .ok place) :
    disk.Leads links start steps place := by
  fun_induction disk.locate links start steps with
  | case1 =>
      obtain rfl := Except.ok.inj h
      exact .here
  | case2 links start rest ih => exact .stay (ih h)
  | case3 links start rest ih => exact .up (ih h)
  | case4 => contradiction
  | case5 links start name rest hshort next hnone hrest =>
      obtain rfl := List.isEmpty_iff.mp hrest
      obtain rfl := Except.ok.inj h
      exact .last (Nat.le_of_not_lt hshort) (.inl hnone)
  | case6 => contradiction
  | case7 links start name rest hshort next hdirectory ih =>
      exact .into (Nat.le_of_not_lt hshort) hdirectory (ih h)
  | case8 links start name rest hshort next content modified hfile hrest =>
      obtain rfl := List.isEmpty_iff.mp hrest
      obtain rfl := Except.ok.inj h
      exact .last (Nat.le_of_not_lt hshort) (.inr ⟨content, modified, hfile⟩)
  | case9 => contradiction
  | case10 => contradiction
  | case11 start name rest hshort next target hlink fewer origin ih =>
      exact .through (Nat.le_of_not_lt hshort) hlink (ih h)

theorem Leads.locate_eq (h : disk.Leads links start steps place) :
    disk.locate links start steps = .ok place := by
  induction h with
  | here => rw [locate]
  | stay h ih => rw [locate, ih]
  | up h ih => rw [locate, ih]
  | last hshort hat =>
      rw [locate, if_neg (Nat.not_lt.mpr hshort)]
      rcases hat with hnone | ⟨content, modified, hfile⟩
      · simp [hnone]
      · simp [hfile]
  | into hshort hat h ih =>
      rw [locate, if_neg (Nat.not_lt.mpr hshort)]
      simp only [hat, ih]
  | through hshort hat h ih =>
      rw [locate, if_neg (Nat.not_lt.mpr hshort)]
      simp only [hat]
      exact ih

theorem Leads.unique {other : Location} (h : disk.Leads links start steps place)
    (hother : disk.Leads links start steps other) : place = other :=
  Except.ok.inj (h.locate_eq.symm.trans hother.locate_eq)

theorem Leads.of_directory {name : String} {rest : List Step}
    (h : disk.Leads links start (.down name :: rest) place)
    (hat : disk.at? (start ++ [name]) = some .directory) :
    disk.Leads links (start ++ [name]) rest place := by
  generalize hsteps : Step.down name :: rest = steps at h
  cases h with
  | into _ _ h =>
      obtain ⟨hname, rfl⟩ := List.cons.inj hsteps
      rwa [Step.down.inj hname]
  | last _ hlast =>
      obtain ⟨hname, rfl⟩ := List.cons.inj hsteps
      rw [Step.down.inj hname] at hat
      rcases hlast with hnone | ⟨content, modified, hfile⟩ <;> simp_all
  | through _ hlink =>
      obtain ⟨hname, rfl⟩ := List.cons.inj hsteps
      rw [← Step.down.inj hname, hat] at hlink
      simp at hlink
  | _ => simp at hsteps

/-- A walk that some links are enough for is the same where there are more. -/
theorem Leads.mono {more : Nat} (h : disk.Leads links start steps place) (hle : links ≤ more) :
    disk.Leads more start steps place := by
  induction h generalizing more with
  | here => exact .here
  | stay _ ih => exact .stay (ih hle)
  | up _ ih => exact .up (ih hle)
  | last hshort hat => exact .last hshort hat
  | into hshort hat _ ih => exact .into hshort hat (ih hle)
  | through hshort hat _ ih =>
      obtain ⟨fewer, rfl⟩ := Nat.exists_eq_add_one.mpr (Nat.lt_of_lt_of_le (Nat.succ_pos _) hle)
      exact .through hshort hat (ih (Nat.le_of_succ_le_succ hle))

/-! ### Standing in a directory -/

/-- A location to which directories lead all the way, itself being one. -/
structure Standing (disk : Disk) (place : Location) : Prop where
  directory : ∀ above, above <+: place → disk.at? above = some .directory
  short : ∀ name ∈ place, name.utf8ByteSize ≤ maxNameSize

theorem standing_root (disk : Disk) : disk.Standing [] where
  directory above habove := by
    rw [List.prefix_nil.mp habove]
    rfl
  short := by simp

theorem Standing.dropLast (h : disk.Standing start) : disk.Standing start.dropLast where
  directory above habove := h.directory above (habove.trans (List.dropLast_prefix start))
  short name hname := h.short name ((List.dropLast_prefix start).mem hname)

theorem Standing.down (h : disk.Standing start) {name : String}
    (hshort : name.utf8ByteSize ≤ maxNameSize)
    (hat : disk.at? (start ++ [name]) = some .directory) : disk.Standing (start ++ [name]) where
  directory above habove := by
    rcases List.prefix_concat_iff.mp habove with rfl | habove
    · exact hat
    · exact h.directory above habove
  short other hother := by
    rcases List.mem_append.mp hother with hother | hother
    · exact h.short other hother
    · rw [List.mem_singleton.mp hother]
      exact hshort

theorem Standing.origin (h : disk.Standing start) (target : Path) :
    disk.Standing (if target.isAbsolute then [] else start) := by
  split
  · exact disk.standing_root
  · exact h

/-- A walk that ends can be stopped on the way.  Unless it is over there, it stands in a
directory, and the rest of it leads to the same end. -/
theorem Leads.split {front back : List Step} (h : disk.Leads links start (front ++ back) place)
    (hstart : disk.Standing start) :
    ∃ mid fewer, fewer ≤ links ∧ disk.Leads links start front mid ∧
      disk.Leads fewer mid back place ∧ (back ≠ [] → disk.Standing mid) := by
  generalize hsteps : front ++ back = steps at h
  induction h generalizing front with
  | here =>
      obtain ⟨rfl, rfl⟩ := List.append_eq_nil_iff.mp hsteps
      exact ⟨_, _, Nat.le_refl _, .here, .here, fun hne => absurd rfl hne⟩
  | stay h ih =>
      rcases List.append_eq_cons_iff.mp hsteps with ⟨rfl, rfl⟩ | ⟨front, rfl, hrest⟩
      · exact ⟨_, _, Nat.le_refl _, .here, .stay h, fun _ => hstart⟩
      · obtain ⟨mid, fewer, hle, hfront, hback, hmid⟩ := ih hstart hrest.symm
        exact ⟨mid, fewer, hle, .stay hfront, hback, hmid⟩
  | up h ih =>
      rcases List.append_eq_cons_iff.mp hsteps with ⟨rfl, rfl⟩ | ⟨front, rfl, hrest⟩
      · exact ⟨_, _, Nat.le_refl _, .here, .up h, fun _ => hstart⟩
      · obtain ⟨mid, fewer, hle, hfront, hback, hmid⟩ := ih hstart.dropLast hrest.symm
        exact ⟨mid, fewer, hle, .up hfront, hback, hmid⟩
  | last hshort hat =>
      rcases List.append_eq_cons_iff.mp hsteps with ⟨rfl, rfl⟩ | ⟨front, rfl, hrest⟩
      · exact ⟨_, _, Nat.le_refl _, .here, .last hshort hat, fun _ => hstart⟩
      · obtain ⟨rfl, rfl⟩ := List.append_eq_nil_iff.mp hrest.symm
        exact ⟨_, _, Nat.le_refl _, .last hshort hat, .here, fun hne => absurd rfl hne⟩
  | into hshort hat h ih =>
      rcases List.append_eq_cons_iff.mp hsteps with ⟨rfl, rfl⟩ | ⟨front, rfl, hrest⟩
      · exact ⟨_, _, Nat.le_refl _, .here, .into hshort hat h, fun _ => hstart⟩
      · obtain ⟨mid, fewer, hle, hfront, hback, hmid⟩ := ih (hstart.down hshort hat) hrest.symm
        exact ⟨mid, fewer, hle, .into hshort hat hfront, hback, hmid⟩
  | @through links start place name target rest hshort hat h ih =>
      rcases List.append_eq_cons_iff.mp hsteps with ⟨rfl, rfl⟩ | ⟨front, rfl, hrest⟩
      · exact ⟨_, _, Nat.le_refl _, .here, .through hshort hat h, fun _ => hstart⟩
      · have hsame : (Step.ofPath target ++ front) ++ back = Step.ofPath target ++ rest := by
          rw [List.append_assoc, hrest]
        obtain ⟨mid, fewer, hle, hfront, hback, hmid⟩ := ih (hstart.origin target) hsame
        exact ⟨mid, fewer, Nat.le_succ_of_le hle, .through hshort hat hfront, hback, hmid⟩

/-- A walk that ends by staying or by going up ends in a directory. -/
theorem Leads.standing {front : List Step} {step : Step}
    (h : disk.Leads links start (front ++ [step]) place) (hstart : disk.Standing start)
    (hstep : ∀ name, step ≠ .down name) : disk.Standing place := by
  obtain ⟨mid, fewer, -, -, hback, hmid⟩ := h.split hstart
  have hstanding := hmid (List.cons_ne_nil step [])
  cases step with
  | stay =>
      cases hback with
      | stay hback =>
          cases hback
          exact hstanding
  | up =>
      cases hback with
      | up hback =>
          cases hback
          exact hstanding.dropLast
  | down name => exact absurd rfl (hstep name)

/-- To stand in a directory is to have come there by the names of its location. -/
theorem Leads.down_names {names : List String} (h : disk.Leads links (start ++ names) steps place)
    (hstanding : disk.Standing (start ++ names)) :
    disk.Leads links start (names.map .down ++ steps) place := by
  induction names generalizing start with
  | nil => simpa using h
  | cons name rest ih =>
      rw [List.append_cons] at h hstanding
      have hshort := hstanding.short name (by simp)
      have hat := hstanding.directory (start ++ [name]) (List.prefix_append _ _)
      exact .into hshort hat (ih h hstanding)

/-! ### Links that stay where they are -/

/-- No link at a location or below it leads to anything elsewhere. -/
def Encloses (disk : Disk) (area : Location) : Prop :=
  ∀ place target stop, area <+: place → disk.at? place = some (.link target) →
    disk.locate linkBudget (if target.isAbsolute then [] else place.dropLast)
      (Step.ofPath target) = .ok stop →
    (disk.at? stop).isSome → area <+: stop

/-- Where no link leads out, names lead out neither. -/
theorem Encloses.leads {area : Location} (h : disk.Encloses area) {names : List String}
    (hwalk : disk.Leads links start (names.map .down) place) (hlinks : links ≤ linkBudget)
    (hstart : disk.Standing start) (harea : area <+: start) (hplace : (disk.at? place).isSome) :
    area <+: place := by
  induction names generalizing links start with
  | nil =>
      cases hwalk
      exact harea
  | cons name rest ih =>
      have hnext : area <+: start ++ [name] := harea.trans (List.prefix_append _ _)
      rw [List.map_cons] at hwalk
      generalize hdowns : rest.map Step.down = downs at hwalk
      cases hwalk with
      | last => exact hnext
      | into hshort hat hrest => exact ih (hdowns ▸ hrest) hlinks (hstart.down hshort hat) hnext
      | @through fewer _ _ _ target _ hshort hat hrest =>
          obtain ⟨mid, left, hle, htarget, hback, hmid⟩ := hrest.split (hstart.origin target)
          have hfewer := Nat.le_of_succ_le hlinks
          have hexists : (disk.at? mid).isSome := by
            cases downs with
            | nil =>
                cases hback
                exact hplace
            | cons step more => simp [(hmid (by simp)).directory mid List.prefix_rfl]
          have henclosed : area <+: mid := by
            refine h _ target mid hnext hat ?_ hexists
            rw [List.dropLast_concat]
            exact (htarget.mono hfewer).locate_eq
          cases downs with
          | nil =>
              cases hback
              exact henclosed
          | cons step more =>
              exact ih (hdowns ▸ hback) (Nat.le_trans hle hfewer) (hmid (by simp)) henclosed

/-! ### Walks without links and the folding of names -/

/-- A walk may as well go first, by their names, to the directory that its beginning folds to, if
the beginning meets no link. -/
theorem Leads.folded {front back : List Step} {stop : Location}
    (hfront : disk.Leads 0 start front stop)
    (hwalk : disk.Leads links start (front ++ back) place) (hstart : disk.Standing start) :
    disk.Leads links [] ((front.foldl Step.fold start).map .down ++ back) place := by
  generalize hnone : 0 = none at hfront
  induction hfront with
  | here => exact hwalk.down_names hstart
  | stay _ ih =>
      cases hwalk with
      | stay hwalk => exact ih hwalk hstart hnone
  | up _ ih =>
      cases hwalk with
      | up hwalk => exact ih hwalk hstart.dropLast hnone
  | @last none start name hshort hat =>
      have hdown : disk.Leads links [] (start.map .down ++ ([.down name] ++ back)) place :=
        Leads.down_names hwalk hstart
      simpa [Step.fold] using hdown
  | into hshort hat _ ih => exact ih (hwalk.of_directory hat) (hstart.down hshort hat) hnone
  | through => contradiction

/-- Staying in place is not needed to come to an end. -/
theorem Leads.without_stay {front back : List Step}
    (h : disk.Leads links start (front ++ back) place) :
    disk.Leads links start (front ++ back.filter (· ≠ .stay)) place := by
  generalize hsteps : front ++ back = steps at h
  induction h generalizing front back with
  | here =>
      obtain ⟨rfl, rfl⟩ := List.append_eq_nil_iff.mp hsteps
      exact .here
  | stay _ ih =>
      rcases List.append_eq_cons_iff.mp hsteps with ⟨rfl, rfl⟩ | ⟨front, rfl, hrest⟩
      · simpa using @ih [] _ rfl
      · exact .stay (ih hrest.symm)
  | up _ ih =>
      rcases List.append_eq_cons_iff.mp hsteps with ⟨rfl, rfl⟩ | ⟨front, rfl, hrest⟩
      · simpa using Leads.up (@ih [] _ rfl)
      · exact .up (ih hrest.symm)
  | last hshort hat =>
      rcases List.append_eq_cons_iff.mp hsteps with ⟨rfl, rfl⟩ | ⟨front, rfl, hrest⟩
      · simpa using Leads.last hshort hat
      · obtain ⟨rfl, rfl⟩ := List.append_eq_nil_iff.mp hrest.symm
        exact .last hshort hat
  | into hshort hat _ ih =>
      rcases List.append_eq_cons_iff.mp hsteps with ⟨rfl, rfl⟩ | ⟨front, rfl, hrest⟩
      · simpa using Leads.into hshort hat (@ih [] _ rfl)
      · exact .into hshort hat (ih hrest.symm)
  | @through links start place name target rest hshort hat _ ih =>
      rcases List.append_eq_cons_iff.mp hsteps with ⟨rfl, rfl⟩ | ⟨front, rfl, hrest⟩
      · simpa using Leads.through hshort hat (ih rfl)
      · rw [hrest, ← List.append_assoc] at ih
        have hthrough := ih rfl
        rw [List.append_assoc] at hthrough
        exact .through hshort hat hthrough

end Disk

end Signpost
