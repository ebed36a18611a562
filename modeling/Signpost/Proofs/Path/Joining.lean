import Mathlib.Data.List.DropRight
import Signpost.Proofs.Path.Normal

/-!
Joined paths and their normal forms.  The components of a path that is seen from a directory come
after those of the directory, so its normal form depends on the normal form of the directory only.
It does not depend on the normal form of the path alone: where a relative path climbs more than
once, normal form takes one `..` away with the next.
-/

namespace Signpost

namespace Path

variable {b p q : Path} {names : List String}

/-- What the pieces of a path stand for, one after the other. -/
def parts (p : Path) : List Component := p.pieces.filterMap Component.ofPiece?

theorem foldl_components (absolute : Bool) (stack : List String) :
    p.components.foldl (foldComponent absolute) stack =
      p.parts.foldl (foldComponent absolute) stack := by
  unfold components parts
  dsimp only
  split
  · rfl
  · split <;> rfl

theorem normalNames_eq (p : Path) :
    p.normalNames = (p.parts.foldl (foldComponent p.isAbsolute) []).reverse := by
  rw [normalNames, foldl_components]

theorem isName_of_normal_mem_parts {name : String} (h : .normal name ∈ p.parts) : IsName name :=
  isName_of_normal_mem_components (List.mem_append_right _ h)

/-- What a joined path stands for is what its parts stand for, whatever slashes are between. -/
theorem parts_join (hq : q.isAbsolute = false) : (p.join q).parts = p.parts ++ q.parts := by
  unfold join
  rw [hq, if_neg Bool.false_ne_true]
  by_cases hempty : p.text = ""
  · obtain rfl : p = ⟨""⟩ := by rw [← hempty]
    have hnothing : parts ⟨""⟩ = [] := by decide
    simp [hnothing]
  · by_cases hlast : p.text.toList.getLast? = some '/'
    · obtain ⟨front, hfront⟩ := List.getLast?_eq_some_iff.mp hlast
      rw [if_pos (Or.inr hlast)]
      simp [parts, pieces, hfront, piecesBetween_append, piecesBetween, Component.ofPiece?]
    · rw [if_neg (not_or.mpr ⟨hempty, hlast⟩)]
      simp [parts, pieces, piecesBetween_append]

/-- A path of pieces stands for what its pieces stand for. -/
theorem parts_ofNames {absolute : Bool} (h : ∀ name ∈ names, IsPiece name) :
    (ofNames absolute names).parts = names.filterMap Component.ofPiece? := by
  cases names with
  | nil => cases absolute <;> decide
  | cons first rest =>
      have hne := List.cons_ne_nil first rest
      cases absolute with
      | false => rw [parts, pieces_ofNames_false hne h]
      | true =>
          rw [parts, pieces_ofNames_true hne h]
          rfl

theorem normalNames_join (hp : p.isAbsolute = true) (hq : q.isAbsolute = false) :
    (p.join q).normalNames =
      (q.parts.foldl (foldComponent true) p.normalNames.reverse).reverse := by
  rw [normalNames_eq, normalNames_eq, isAbsolute_join hp, parts_join hq, List.foldl_append, hp,
    List.reverse_reverse]

/-- Two absolute paths have one normal form if and only if it has the same names. -/
theorem normalize_eq_iff (hp : p.isAbsolute = true) (hq : q.isAbsolute = true) :
    p.normalize = q.normalize ↔ p.normalNames = q.normalNames := by
  rw [normalize_of_isAbsolute hp, normalize_of_isAbsolute hq]
  constructor
  · intro h
    have hnames := congrArg normalNames h
    rwa [normalNames_ofNames_true (isName_of_mem_normalNames hp),
      normalNames_ofNames_true (isName_of_mem_normalNames hq)] at hnames
  · intro h
    rw [h]

/-! ### Climbing -/

/-- One step along the components of a relative path, with the count of `..` that have found no
name to take away, and the names since, the last one first. -/
def climb (state : Nat × List String) : Component → Nat × List String
  | .root => state
  | .current => state
  | .parent =>
      match state.2 with
      | [] => (state.1 + 1, [])
      | _ :: below => (state.1, below)
  | .normal name => (state.1, name :: state.2)

/-- How often a path climbs above its start. -/
def climbs (p : Path) : Nat := (p.parts.foldl climb (0, [])).1

/-- The names that a path leads down along once it has climbed. -/
def descent (p : Path) : List String := (p.parts.foldl climb (0, [])).2.reverse

/-- Normalization climbs and descends on top of whatever lies below its stack, as long as `..`
takes from what lies below as it does there. -/
theorem foldl_foldComponent_append {absolute : Bool} {below : Nat → List String}
    (hbelow : ∀ n, foldComponent absolute (below n) .parent = below (n + 1))
    (parts : List Component) (n : Nat) (stack : List String) :
    parts.foldl (foldComponent absolute) (stack ++ below n) =
      (parts.foldl climb (n, stack)).2 ++ below (parts.foldl climb (n, stack)).1 := by
  induction parts generalizing n stack with
  | nil => rfl
  | cons part rest ih =>
      cases part with
      | root => exact ih n stack
      | current => exact ih n stack
      | normal name => exact ih n (name :: stack)
      | parent =>
          cases stack with
          | nil =>
              rw [List.foldl_cons, List.nil_append, hbelow]
              exact ih (n + 1) []
          | cons top rest => exact ih n rest

/-- What is below the stack of a relative path that has climbed so often: one `..` takes the
other away. -/
def leadingParents (n : Nat) : List String :=
  if n % 2 = 1 then [".."] else []

theorem foldComponent_leadingParents (n : Nat) :
    foldComponent false (leadingParents n) .parent = leadingParents (n + 1) := by
  unfold leadingParents
  by_cases hodd : n % 2 = 1
  · rw [if_pos hodd, if_neg (by omega)]
    rfl
  · rw [if_neg hodd, if_pos (by omega)]
    rfl

/-- The normal form of a relative path has a leading `..` if the path climbs an odd number of
times, and none otherwise. -/
theorem normalNames_of_relative (hp : p.isAbsolute = false) :
    p.normalNames = leadingParents p.climbs ++ p.descent := by
  have hreverse : (leadingParents p.climbs).reverse = leadingParents p.climbs := by
    unfold leadingParents
    split <;> rfl
  have hfold := foldl_foldComponent_append foldComponent_leadingParents p.parts 0 []
  rw [normalNames_eq, hp, ← hreverse, descent, ← List.reverse_append]
  exact congrArg List.reverse hfold

theorem foldComponent_drop (names : List String) (n : Nat) :
    foldComponent true (names.drop n) .parent = names.drop (n + 1) := by
  rw [← List.tail_drop]
  cases names.drop n <;> rfl

/-- A relative path climbs out of the directory that it is seen from, and no further than to the
root, before it descends. -/
theorem normalNames_join_of_relative (hb : b.isAbsolute = true) (hp : p.isAbsolute = false) :
    (b.join p).normalNames = b.normalNames.rdrop p.climbs ++ p.descent := by
  have hfold := foldl_foldComponent_append (foldComponent_drop b.normalNames.reverse) p.parts 0 []
  rw [List.drop_zero, List.nil_append] at hfold
  rw [normalNames_join hb hp, hfold, List.reverse_append, List.rdrop_eq_reverse_drop_reverse]
  rfl

theorem mem_foldl_climb {parts : List Component} {n : Nat} {stack : List String} {name : String}
    (h : name ∈ (parts.foldl climb (n, stack)).2) : name ∈ stack ∨ .normal name ∈ parts := by
  induction parts generalizing n stack with
  | nil => exact Or.inl h
  | cons part rest ih =>
      cases part with
      | root => exact (ih h).imp_right (List.mem_cons_of_mem _)
      | current => exact (ih h).imp_right (List.mem_cons_of_mem _)
      | normal other =>
          rcases ih h with hstack | hrest
          · rcases List.mem_cons.mp hstack with rfl | hstack
            · exact Or.inr List.mem_cons_self
            · exact Or.inl hstack
          · exact Or.inr (List.mem_cons_of_mem _ hrest)
      | parent =>
          cases stack with
          | nil => exact (ih h).imp_right (List.mem_cons_of_mem _)
          | cons top below =>
              exact (ih h).imp (List.mem_cons_of_mem top) (List.mem_cons_of_mem _)

theorem isName_of_mem_descent {name : String} (h : name ∈ p.descent) : IsName name := by
  rcases mem_foldl_climb (List.mem_reverse.mp h) with hnil | hname
  · exact absurd hnil List.not_mem_nil
  · exact isName_of_normal_mem_parts hname

theorem foldl_climb_names (n : Nat) (names stack : List String) :
    (names.map Component.normal).foldl climb (n, stack) = (n, names.reverse ++ stack) := by
  induction names generalizing stack with
  | nil => rfl
  | cons name rest ih =>
      rw [List.map_cons, List.foldl_cons]
      change (rest.map Component.normal).foldl climb (n, name :: stack) = _
      rw [ih, List.reverse_cons, List.append_assoc, List.singleton_append]

theorem foldl_climb_normalize (hp : p.isAbsolute = false) :
    p.normalize.parts.foldl climb (0, []) = (p.climbs % 2, p.descent.reverse) := by
  have hnames : ∀ name ∈ leadingParents p.climbs ++ p.descent, IsPiece name := by
    intro name hname
    rcases List.mem_append.mp hname with hparent | hname
    · unfold leadingParents at hparent
      split at hparent
      · rw [List.mem_singleton.mp hparent]
        exact isPiece_parent
      · exact absurd hparent List.not_mem_nil
    · exact (isName_of_mem_descent hname).toIsPiece
  rw [normalize, hp, normalNames_of_relative hp, parts_ofNames hnames, List.filterMap_append,
    filterMap_ofPiece?_names fun name => isName_of_mem_descent, List.foldl_append]
  have hparents : ((leadingParents p.climbs).filterMap Component.ofPiece?).foldl climb (0, []) =
      (p.climbs % 2, []) := by
    unfold leadingParents
    by_cases hodd : p.climbs % 2 = 1
    · rw [if_pos hodd, hodd]
      rfl
    · rw [if_neg hodd, Nat.mod_two_ne_one.mp hodd]
      rfl
  rw [hparents, foldl_climb_names, List.append_nil]

theorem rdrop_eq_rdrop_iff {α : Type} (l : List α) (m n : Nat) :
    l.rdrop m = l.rdrop n ↔ l.length - m = l.length - n := by
  unfold List.rdrop
  constructor
  · intro h
    have hlength := congrArg List.length h
    rw [List.length_take, List.length_take] at hlength
    omega
  · intro h
    rw [h]

/-- A path may be replaced by its normal form in the directory `b` if and only if it is absolute,
or climbs at most once, or has no way to climb in `b` that its normal form does not go. -/
theorem normalize_join_normalize_iff (hb : b.isAbsolute = true) (p : Path) :
    (b.join p.normalize).normalize = (b.join p).normalize ↔
      p.isAbsolute = true ∨ p.climbs ≤ 1 ∨ b.normalNames.length ≤ p.climbs % 2 := by
  cases hp : p.isAbsolute with
  | true =>
      have hnormal : p.normalize.isAbsolute = true := (isAbsolute_normalize p).trans hp
      rw [join, if_pos hnormal, join, if_pos hp]
      simp [normalize_normalize hp]
  | false =>
      have hnormal : p.normalize.isAbsolute = false := (isAbsolute_normalize p).trans hp
      have hclimbs : p.normalize.climbs = p.climbs % 2 := by rw [climbs, foldl_climb_normalize hp]
      have hdescent : p.normalize.descent = p.descent := by
        rw [descent, foldl_climb_normalize hp, List.reverse_reverse]
      rw [normalize_eq_iff (isAbsolute_join hb _) (isAbsolute_join hb _),
        normalNames_join_of_relative hb hnormal, normalNames_join_of_relative hb hp, hclimbs,
        hdescent, List.append_left_inj, rdrop_eq_rdrop_iff]
      simp only [Bool.false_eq_true, false_or]
      omega

theorem normalize_join_normalize_iff_site :
    isAbsolute ⟨"/srv//app/."⟩ = true ∧ isAbsolute ⟨"a/./../../public/"⟩ = false ∧
      climbs ⟨"a/./../../public/"⟩ = 1 ∧
      (join ⟨"/srv//app/."⟩ (normalize ⟨"a/./../../public/"⟩)).normalize =
        (join ⟨"/srv//app/."⟩ ⟨"a/./../../public/"⟩).normalize :=
  ⟨by decide, by decide, by decide,
    (normalize_join_normalize_iff (by decide) _).mpr (Or.inr (Or.inl (by decide)))⟩

/-- The two `..` of `../../b` take each other away, and the path does not climb any more. -/
theorem normal_form_forgets_climbs :
    normalize ⟨"../../b"⟩ = ⟨"b"⟩ ∧
      (join ⟨"/x/y"⟩ (normalize ⟨"../../b"⟩)).normalize = ⟨"/x/y/b"⟩ ∧
      (join ⟨"/x/y"⟩ ⟨"../../b"⟩).normalize = ⟨"/b"⟩ := by
  decide

end Path

end Signpost
