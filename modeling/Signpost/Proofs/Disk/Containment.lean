import Mathlib
import Signpost.Containment
import Signpost.Proofs.Disk.Canonical

/-!
What staying within a root comes to.  A path that is let through lies under an absolute root,
by its names and, if it exists, by its true location.  A relative root lets nothing through, or
everything: whatever is not folded away in it has no absolute path under it, and a root of
which nothing is left is compared with nothing.
-/

namespace Signpost

namespace Path

variable {p q : Path}

/-- The way up from a path begins with the path itself. -/
theorem exists_ancestors_eq (p : Path) : ∃ above, p.ancestors = p :: above := by
  unfold ancestors
  cases p.components.length with
  | zero => exact ⟨[], rfl⟩
  | succ n =>
      rw [ancestors.above]
      split
      · exact ⟨[], rfl⟩
      · exact ⟨_, rfl⟩

end Path

namespace Disk

variable {disk : Disk} {root p q : Path} {place : Location}

theorem canonicalAncestor?_of_canonical? (h : disk.canonical? p = some place) :
    disk.canonicalAncestor? p = some place := by
  obtain ⟨above, habove⟩ := p.exists_ancestors_eq
  simp [canonicalAncestor?, habove, h]

/-- What is known of a path that is let through. -/
theorem confine_some_eq_ok (h : disk.confine (some root) p = .ok q) :
    q = p.normalize ∧ q.isUnder root.normalize = true ∧
      ∀ place rootPlace, disk.canonicalAncestor? q = some place →
        disk.canonicalAncestor? root.normalize = some rootPlace → rootPlace <+: place := by
  simp only [confine] at h
  split at h
  · next hunder =>
      split at h
      · next place rootPlace hplace hroot =>
          split at h
          · next hprefix =>
              obtain rfl := Except.ok.inj h
              refine ⟨rfl, hunder, fun other otherRoot hother hotherRoot => ?_⟩
              obtain rfl := Option.some.inj (hplace.symm.trans hother)
              obtain rfl := Option.some.inj (hroot.symm.trans hotherRoot)
              exact List.isPrefixOf_iff_prefix.mp hprefix
          · contradiction
      · next hmissing =>
          obtain rfl := Except.ok.inj h
          exact ⟨rfl, hunder, fun place rootPlace hplace hroot =>
            (hmissing place rootPlace hplace hroot).elim⟩
  · contradiction

/-- What it means that a path stays within a root: it leads down from there, name by name, and
its true location lies at or below that of the root in normal form, which is the root's own
unless a link stands before a `..` in it.  What can be opened at the path lies at its true location,
if that can be told. -/
structure Contains (disk : Disk) (root p : Path) : Prop where
  isAbsolute : p.isAbsolute = true
  pieces : ∀ piece ∈ p.pieces, piece ≠ "." ∧ piece ≠ ".."
  isUnder : p.isUnder root.normalize = true
  canonical : ∀ place, disk.canonical? p = some place →
    ∃ rootPlace, disk.canonical? root.normalize = some rootPlace ∧ rootPlace <+: place ∧
      (disk.Straight root → ∀ own, disk.canonical? root = some own → own = rootPlace)
  found : ∀ place entry, disk.find p = .ok (place, entry) →
    disk.canonical? p = some place ∨ disk.realPath p = .error .nameTooLong

/-- A path that is let through is absolute if the root is. -/
theorem isAbsolute_of_confine (hroot : root.isAbsolute = true)
    (h : disk.confine (some root) p = .ok q) : p.isAbsolute = true := by
  obtain ⟨rfl, hunder, -⟩ := confine_some_eq_ok h
  rw [← Path.isAbsolute_normalize p]
  exact Path.isAbsolute_of_isUnder ((Path.isAbsolute_normalize root).trans hroot) hunder

theorem contains_of_confine (hroot : root.isAbsolute = true)
    (h : disk.confine (some root) p = .ok q) : disk.Contains root q := by
  have hp := isAbsolute_of_confine hroot h
  obtain ⟨rfl, hunder, hplaces⟩ := confine_some_eq_ok h
  have habsolute := (Path.isAbsolute_normalize p).trans hp
  refine ⟨habsolute, Path.pieces_normalize hp, hunder, ?_, fun place entry hfind =>
    canonical?_of_find habsolute hfind⟩
  intro place hplace
  have hnames := Path.isName_of_mem_normalNames hp
  obtain ⟨more, hmore⟩ := (Path.isUnder_normalize_iff hp hroot).mp hunder
  rw [Path.normalize_of_isAbsolute hp, ← hmore] at hplace
  rw [← hmore] at hnames
  obtain ⟨rootPlace, -, -, hrootPlace, -⟩ := canonical?_of_names_append hnames hplace
  rw [hmore, ← Path.normalize_of_isAbsolute hp] at hplace
  rw [← Path.normalize_of_isAbsolute hroot] at hrootPlace
  exact ⟨rootPlace, hrootPlace, hplaces place rootPlace (canonicalAncestor?_of_canonical? hplace)
    (canonicalAncestor?_of_canonical? hrootPlace), fun hstraight own hown =>
      hstraight.canonical?_eq hroot hown hrootPlace⟩

/-! ### Relative roots -/

theorem canonicalAncestor?_empty (disk : Disk) : disk.canonicalAncestor? ⟨""⟩ = none := by
  have hancestors : Path.ancestors ⟨""⟩ = [⟨""⟩] := by decide
  rw [canonicalAncestor?, hancestors]
  rfl

/-- A relative root lets no absolute path through, unless nothing is left of it; then it lets
every path through. -/
theorem confine_of_relative (disk : Disk) (hroot : root.isAbsolute = false)
    (hp : p.isAbsolute = true) :
    disk.confine (some root) p =
      if root.normalNames = [] then .ok p.normalize
      else .error (.outsideRoot p.normalize root.normalize) := by
  simp only [confine]
  by_cases hfolded : root.normalNames = []
  · have hempty : root.normalize = ⟨""⟩ := by
      rw [Path.normalize, hroot, hfolded]
      rfl
    rw [if_pos (Path.isUnder_normalize_of_folded hroot hfolded _), if_pos hfolded, hempty,
      canonicalAncestor?_empty]
    cases disk.canonicalAncestor? p.normalize <;> rfl
  · have hout := Path.not_isUnder_normalize ((Path.isAbsolute_normalize p).trans hp) hroot hfolded
    rw [if_neg hfolded, hout]
    rfl

theorem isAbsolute_herePath (disk : Disk) : disk.herePath.isAbsolute = true :=
  Path.isAbsolute_ofNames_true disk.here

/-- What a relative root does with absolute paths, and when it does what it is for: it keeps them
to the directory that it names if something is left of it, and else only if that directory is
the whole tree. -/
theorem relative_root_restricts_iff (disk : Disk) {root : Path} (hroot : root.isAbsolute = false) :
    (∀ p : Path, p.isAbsolute = true → disk.confine (some root) p =
        if root.normalNames = [] then .ok p.normalize
        else .error (.outsideRoot p.normalize root.normalize)) ∧
      ((∀ p q : Path, p.isAbsolute = true → disk.confine (some root) p = .ok q →
          q.isUnder (disk.herePath.join root).normalize = true) ↔
        root.normalNames ≠ [] ∨ (disk.herePath.join root).normalNames = []) := by
  have hnamed := Path.isAbsolute_join disk.isAbsolute_herePath root
  refine ⟨fun p hp => disk.confine_of_relative hroot hp, ?_, ?_⟩
  · intro hkeeps
    refine or_iff_not_imp_left.mpr fun hfolded => ?_
    have htop : Path.isAbsolute ⟨"/"⟩ = true := by decide
    have haccepts := disk.confine_of_relative hroot htop
    rw [if_pos (not_not.mp hfolded)] at haccepts
    have hunder := (Path.isUnder_normalize_iff htop hnamed).mp (hkeeps _ _ htop haccepts)
    exact List.prefix_nil.mp hunder
  · rintro hkept p q hp hok
    rw [disk.confine_of_relative hroot hp] at hok
    split at hok
    · next hfolded =>
        obtain rfl := Except.ok.inj hok
        rcases hkept with hkept | hwhole
        · exact absurd hfolded hkept
        · exact (Path.isUnder_normalize_iff hp hnamed).mpr (hwhole ▸ List.nil_prefix)
    · contradiction

theorem relative_root_restricts_iff_site :
    Path.isAbsolute ⟨"site"⟩ = false ∧
      ∀ p q : Path, p.isAbsolute = true →
        (Disk.empty ["srv"]).confine (some ⟨"site"⟩) p = .ok q →
          q.isUnder ⟨"/srv/site"⟩ = true :=
  ⟨by decide, (relative_root_restricts_iff (.empty ["srv"]) (by decide)).2.mpr
    (.inl (by decide))⟩

/-- The root `.` lets a path through that lies outside the current directory. -/
theorem current_root_lets_out :
    (Disk.empty ["srv"]).confine (some ⟨"."⟩) ⟨"/etc"⟩ = .ok ⟨"/etc"⟩ ∧
      Path.isUnder ⟨"/etc"⟩
        ((Disk.empty ["srv"]).herePath.join ⟨"."⟩).normalize = false :=
  ⟨by cbv, by decide⟩

end Disk

end Signpost
