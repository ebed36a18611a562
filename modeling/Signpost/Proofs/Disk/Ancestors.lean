import Mathlib.Data.List.Induction
import Signpost.Proofs.Disk.Containment

/-!
The lowest ancestor with a true location.  The location of a path is the true location of the
lowest of its ancestors that has one, with the other names below it, and the verdict on a path below
a root is that on the locations of the two.
-/

namespace Signpost

namespace Path

variable {names : List String} {last : String}

theorem parent?_ofNames (h : ∀ name ∈ names ++ [last], IsName name) :
    (ofNames true (names ++ [last])).parent? = some (ofNames true names) := by
  rw [parent?, components_ofNames_true h]
  simp [ofComponents, Function.comp_def, Component.text]

theorem ancestors_ofNames_concat (h : ∀ name ∈ names ++ [last], IsName name) :
    (ofNames true (names ++ [last])).ancestors =
      ofNames true (names ++ [last]) :: (ofNames true names).ancestors := by
  have hfront : ∀ name ∈ names, IsName name := (List.forall_mem_append.mp h).1
  rw [ancestors, ancestors, components_ofNames_true h, components_ofNames_true hfront]
  simp [ancestors.above, parent?_ofNames h]

/-- The first ancestor of a path for which something is found is the lowest such. -/
theorem findSome?_ancestors {α : Type} {found : Path → Option α} {front more : List String}
    {value : α} (h : ∀ name ∈ front ++ more, IsName name)
    (hfound : found (ofNames true front) = some value)
    (hlower : ∀ lower, lower ≠ [] → lower <+: more → found (ofNames true (front ++ lower)) = none) :
    (ofNames true (front ++ more)).ancestors.findSome? found = some value := by
  induction more using List.reverseRecOn with
  | nil =>
      obtain ⟨above, habove⟩ := (ofNames true front).exists_ancestors_eq
      rw [List.append_nil, habove, List.findSome?_cons, hfound]
  | append_singleton upper last ih =>
      rw [← List.append_assoc] at h ⊢
      have hnone : found (ofNames true (front ++ upper ++ [last])) = none := by
        rw [List.append_assoc]
        exact hlower _ (by simp) List.prefix_rfl
      rw [ancestors_ofNames_concat h, List.findSome?_cons, hnone]
      apply ih (List.forall_mem_append.mp h).1
      intro lower hne hwithin
      exact hlower lower hne (hwithin.trans (List.prefix_append upper [last]))

end Path

namespace Disk

variable {before after disk : Disk} {place : Location} {names front more : List String}

theorem canonical?_root (disk : Disk) : disk.canonical? (Path.ofNames true []) = some [] := by
  rw [canonical?_names_eq_some_iff (by simp)]
  exact ⟨by decide, .here⟩

/-- Where a path has no true location, none that begins with it has one. -/
theorem canonical?_append_eq_none (h : ∀ name ∈ names ++ more, IsName name)
    (hmissing : disk.canonical? (Path.ofNames true names) = none) :
    disk.canonical? (Path.ofNames true (names ++ more)) = none := by
  cases hplace : disk.canonical? (Path.ofNames true (names ++ more)) with
  | none => rfl
  | some place =>
      obtain ⟨mid, fewer, -, hmid, -⟩ := canonical?_of_names_append h hplace
      rw [hmissing] at hmid
      contradiction

/-- The names `front` lead down to the lowest ancestor with a true location, which is `place`; the
names `more` lead on from there. -/
structure Deepest (disk : Disk) (front more : List String) (place : Location) : Prop where
  found : disk.canonical? (Path.ofNames true front) = some place
  missing : ∀ lower, lower ≠ [] → lower <+: more →
    disk.canonical? (Path.ofNames true (front ++ lower)) = none

theorem deepest_nil (hfound : disk.canonical? (Path.ofNames true front) = some place) :
    disk.Deepest front [] place := by
  refine ⟨hfound, ?_⟩
  intro lower hne hwithin
  exact absurd (List.prefix_nil.mp hwithin) hne

/-- Where the next name leads to no true location, neither do the others. -/
theorem deepest_cons {first : String} (h : ∀ name ∈ front ++ first :: more, IsName name)
    (hfound : disk.canonical? (Path.ofNames true front) = some place)
    (hmissing : disk.canonical? (Path.ofNames true (front ++ [first])) = none) :
    disk.Deepest front (first :: more) place := by
  refine ⟨hfound, ?_⟩
  intro lower hne hwithin
  obtain ⟨other, below, rfl⟩ := List.exists_cons_of_ne_nil hne
  obtain ⟨rfl, -⟩ := List.cons_prefix_cons.mp hwithin
  rw [List.append_cons]
  apply canonical?_append_eq_none _ hmissing
  intro name hname
  rw [← List.append_cons] at hname
  exact h name (((List.prefix_append_right_inj front).mpr hwithin).mem hname)

theorem Deepest.canonicalAncestor?_eq (hdeepest : disk.Deepest front more place)
    (h : ∀ name ∈ front ++ more, IsName name) :
    disk.canonicalAncestor? (Path.ofNames true (front ++ more)) = some (place ++ more) := by
  have hfront : ∀ name ∈ front, IsName name := (List.forall_mem_append.mp h).1
  apply Path.findSome?_ancestors h
  · rw [hdeepest.found, Path.components_ofNames_true h, Path.components_ofNames_true hfront]
    simp [Function.comp_def, Component.text]
  · intro lower hne hwithin
    rw [hdeepest.missing lower hne hwithin]
    rfl

theorem exists_deepest (disk : Disk) (h : ∀ name ∈ names, IsName name) :
    ∃ front more place, names = front ++ more ∧ disk.Deepest front more place := by
  induction names using List.reverseRecOn with
  | nil => exact ⟨[], [], [], rfl, deepest_nil disk.canonical?_root⟩
  | append_singleton upper last ih =>
      cases hplace : disk.canonical? (Path.ofNames true (upper ++ [last])) with
      | some place =>
          exact ⟨upper ++ [last], [], place, (List.append_nil _).symm, deepest_nil hplace⟩
      | none =>
          obtain ⟨front, more, place, rfl, hdeepest⟩ := ih (List.forall_mem_append.mp h).1
          refine ⟨front, more ++ [last], place, List.append_assoc _ _ _, hdeepest.found, ?_⟩
          intro lower hne hwithin
          rcases List.prefix_concat_iff.mp hwithin with rfl | hwithin
          · rwa [← List.append_assoc]
          · exact hdeepest.missing lower hne hwithin

/-! ### Verdicts -/

variable {root p : Path}

/-- The verdict rests on the locations of the path and of what it begins with. -/
theorem confine_congr (hp : p.isAbsolute = true) (hroot : root.isAbsolute = true)
    (hsame : ∀ names, names <+: p.normalNames →
      after.canonicalAncestor? (Path.ofNames true names) =
        before.canonicalAncestor? (Path.ofNames true names)) :
    after.confine (some root) p = before.confine (some root) p := by
  simp only [confine]
  by_cases hunder : p.normalize.isUnder root.normalize = true
  · have hnames := (Path.isUnder_normalize_iff hp hroot).mp hunder
    have hpath := hsame p.normalNames List.prefix_rfl
    have hbase := hsame root.normalNames hnames
    rw [← Path.normalize_of_isAbsolute hp] at hpath
    rw [← Path.normalize_of_isAbsolute hroot] at hbase
    rw [hpath, hbase]
  · rw [if_neg hunder, if_neg hunder]

theorem confine_eq {rootPlace : Location} (hp : p.isAbsolute = true)
    (hroot : root.isAbsolute = true) (hnames : root.normalNames <+: p.normalNames)
    (hplace : disk.canonicalAncestor? p.normalize = some place)
    (hrootPlace : disk.canonicalAncestor? root.normalize = some rootPlace) :
    disk.confine (some root) p =
      if rootPlace <+: place then .ok p.normalize else .error (.linkOutsideRoot p.normalize) := by
  have hunder := (Path.isUnder_normalize_iff hp hroot).mpr hnames
  simp only [confine, hunder, if_true, hplace, hrootPlace, List.isPrefixOf_iff_prefix]

theorem confine_eq_ok_iff {rootPlace : Location} (hp : p.isAbsolute = true)
    (hroot : root.isAbsolute = true) (hnames : root.normalNames <+: p.normalNames)
    (hplace : disk.canonicalAncestor? p.normalize = some place)
    (hrootPlace : disk.canonicalAncestor? root.normalize = some rootPlace) :
    disk.confine (some root) p = .ok p.normalize ↔ rootPlace <+: place := by
  rw [confine_eq hp hroot hnames hplace hrootPlace]
  by_cases hwithin : rootPlace <+: place
  · simp [hwithin]
  · simp [hwithin]

end Disk

end Signpost
