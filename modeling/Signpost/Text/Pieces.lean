/-!
Texts cut at a mark: the pieces between slashes, commas and the like.
-/

namespace Signpost

/-- The pieces of a text between marks; `n` marks make `n + 1` pieces. -/
def piecesBetween (mark : Char) : List Char → List (List Char)
  | [] => [[]]
  | c :: rest =>
      if c = mark then [] :: piecesBetween mark rest
      else
        match piecesBetween mark rest with
        | [] => [[c]]
        | piece :: pieces => (c :: piece) :: pieces

theorem piecesBetween_ne_nil (mark : Char) (s : List Char) : piecesBetween mark s ≠ [] := by
  cases s with
  | nil => simp [piecesBetween]
  | cons c rest =>
      by_cases hc : c = mark
      · simp [piecesBetween, hc]
      · simp only [piecesBetween, hc, if_false]
        split <;> simp

theorem piecesBetween_of_not_mem {mark : Char} {s : List Char} (h : mark ∉ s) :
    piecesBetween mark s = [s] := by
  induction s with
  | nil => rfl
  | cons c rest ih =>
      have hc : c ≠ mark := (List.ne_of_not_mem_cons h).symm
      rw [piecesBetween, if_neg hc, ih (List.not_mem_of_not_mem_cons h)]

/-- A mark cuts a text in two, wherever else it is cut. -/
theorem piecesBetween_append (mark : Char) (s rest : List Char) :
    piecesBetween mark (s ++ mark :: rest) = piecesBetween mark s ++ piecesBetween mark rest := by
  induction s with
  | nil => simp [piecesBetween]
  | cons c more ih =>
      by_cases hc : c = mark
      · simp [piecesBetween, hc, ih]
      · cases hpieces : piecesBetween mark more with
        | nil => exact absurd hpieces (piecesBetween_ne_nil mark more)
        | cons first others =>
            rw [hpieces] at ih
            simp [piecesBetween, hc, ih, hpieces]

theorem not_mem_of_mem_piecesBetween {mark : Char} {s piece : List Char}
    (h : piece ∈ piecesBetween mark s) : mark ∉ piece := by
  induction s generalizing piece with
  | nil =>
      rw [List.mem_singleton.mp h]
      exact List.not_mem_nil
  | cons c rest ih =>
      rw [piecesBetween] at h
      split at h
      · rcases List.mem_cons.mp h with rfl | h
        · exact List.not_mem_nil
        · exact ih h
      · next hc =>
          split at h
          · next hpieces => exact absurd hpieces (piecesBetween_ne_nil mark rest)
          · next first others hpieces =>
              rw [hpieces] at ih
              rcases List.mem_cons.mp h with rfl | h
              · exact List.not_mem_cons_of_ne_of_not_mem (Ne.symm hc) (ih List.mem_cons_self)
              · exact ih (List.mem_cons_of_mem first h)

/-- Pieces without the mark come back when they have been put together with it. -/
theorem piecesBetween_intercalate {mark : Char} {pieces : List (List Char)} (hne : pieces ≠ [])
    (h : ∀ piece ∈ pieces, mark ∉ piece) :
    piecesBetween mark ([mark].intercalate pieces) = pieces := by
  induction pieces with
  | nil => exact absurd rfl hne
  | cons first rest ih =>
      have hfirst := h first List.mem_cons_self
      cases rest with
      | nil =>
          rw [List.intercalate_singleton]
          exact piecesBetween_of_not_mem hfirst
      | cons second others =>
          rw [List.intercalate_cons_cons, List.append_assoc, List.singleton_append,
            piecesBetween_append, piecesBetween_of_not_mem hfirst, List.singleton_append,
            ih (List.cons_ne_nil second others) fun piece hpiece =>
              h piece (List.mem_cons_of_mem first hpiece)]

end Signpost
