import Signpost.Proofs.Cache.Turns

/-!
What is constructed stays.  A value that a key has is the one it keeps, and a value that a
key comes to have is that of the caller whose attempt it was.
-/

namespace Signpost

namespace Cache

variable {α ε : Type} {cache : Cache α ε}

/-- The values of keys after an attempt: those that were there, and the one that the attempt has
constructed. -/
theorem Attempt.get?_eq_some_iff {call : Call α ε} {next : Cache α ε}
    {answer : Option (Answer α ε)} (hattempt : cache.Attempt call next answer) (h : cache.Sound)
    (hcall : call ∈ cache.calls) {key : String} {v : α} :
    next.get? key = some v ↔
      cache.get? key = some v ∨ call.key = key ∧ answer = some ⟨.ok v, true⟩ := by
  cases hattempt with
  | served =>
      change cache.get? key = some v ↔ _
      simp
  | waits => simp
  | yields =>
      change cache.get? key = some v ↔ _
      simp
  | constructs hturn =>
      by_cases hkey : call.key = key
      · subst hkey
        rw [h.get?_fill_self hcall, hturn.1]
        simp
      · rw [h.get?_fill_of_ne hcall _ (Ne.symm hkey)]
        simp [hkey]
  | fails hturn =>
      rw [h.get?_afterFailure hturn]
      simp

theorem Attempt.keeps {call : Call α ε} {next : Cache α ε} {answer : Option (Answer α ε)}
    (hattempt : cache.Attempt call next answer) (h : cache.Sound) (hcall : call ∈ cache.calls)
    {key : String} {v : α} (hget : cache.get? key = some v) : next.get? key = some v :=
  (hattempt.get?_eq_some_iff h hcall).mpr (Or.inl hget)

/-- Whoever ends with a value has it from its key. -/
theorem Attempt.gives {call : Call α ε} {next : Cache α ε} {v : α} {ran : Bool}
    (hattempt : cache.Attempt call next (some ⟨.ok v, ran⟩)) (h : cache.Sound)
    (hcall : call ∈ cache.calls) : next.get? call.key = some v := by
  cases hattempt with
  | served hvalue => exact hvalue
  | constructs => exact h.get?_fill_self hcall v

theorem Attempt.source {call : Call α ε} {next : Cache α ε} {answer : Option (Answer α ε)}
    (hattempt : cache.Attempt call next answer) (h : cache.Sound) (hcall : call ∈ cache.calls)
    {key : String} {v : α} (hget : next.get? key = some v) :
    cache.get? key = some v ∨ key = call.key ∧ call.work.result = .ok v ∧
      ∀ later ∈ next.calls, later.id ≠ call.id := by
  rcases (hattempt.get?_eq_some_iff h hcall).mp hget with hold | ⟨rfl, rfl⟩
  · exact Or.inl hold
  · have hparts := hattempt.parts h hcall
    exact Or.inr ⟨rfl, hparts.own rfl call hcall rfl, hparts.gone⟩

theorem Sound.keeps_poll (h : cache.Sound) (id : Nat) {key : String} {v : α}
    (hget : cache.get? key = some v) : (cache.poll id).1.get? key = some v := by
  cases hcall : cache.call? id with
  | none =>
      rw [poll_of_call?_eq_none hcall]
      exact hget
  | some call => exact (h.attempt hcall).keeps h (mem_of_call? hcall).1 hget

theorem Sound.gives_poll (h : cache.Sound) {id : Nat} {v : α} {ran : Bool}
    (hanswer : (cache.poll id).2 = some ⟨.ok v, ran⟩) :
    ∃ call ∈ cache.calls, call.id = id ∧ (cache.poll id).1.get? call.key = some v := by
  cases hcall : cache.call? id with
  | none =>
      rw [poll_of_call?_eq_none hcall] at hanswer
      exact absurd hanswer (by simp)
  | some call =>
      obtain ⟨hmem, rfl⟩ := mem_of_call? hcall
      have hattempt := h.attempt hcall
      rw [hanswer] at hattempt
      exact ⟨call, hmem, rfl, hattempt.gives h hmem⟩

theorem Sound.source_poll (h : cache.Sound) {id : Nat} {key : String} {v : α}
    (hget : (cache.poll id).1.get? key = some v) :
    cache.get? key = some v ∨ ∃ call ∈ cache.calls, call.key = key ∧ call.work.result = .ok v ∧
      ∀ later ∈ (cache.poll id).1.calls, later.id ≠ call.id := by
  cases hcall : cache.call? id with
  | none =>
      rw [poll_of_call?_eq_none hcall] at hget
      exact Or.inl hget
  | some call =>
      obtain ⟨hmem, -⟩ := mem_of_call? hcall
      rcases (h.attempt hcall).source h hmem hget with hold | ⟨rfl, hresult, hgone⟩
      · exact Or.inl hold
      · exact Or.inr ⟨call, hmem, rfl, hresult, hgone⟩

theorem get?_abandon (id : Nat) (key : String) : (cache.abandon id).get? key = cache.get? key := by
  unfold abandon
  split
  · rfl
  · exact get?_leave _ id key

/-! ### Whatever happens -/

theorem Sound.get?_poll_eq_some_iff (h : cache.Sound) {id : Nat} {key : String} {v : α} :
    (cache.poll id).1.get? key = some v ↔
      cache.get? key = some v ∨ ∃ call ∈ cache.calls, call.key = key ∧ call.id = id ∧
        (cache.poll id).2 = some ⟨.ok v, true⟩ := by
  cases hcall : cache.call? id with
  | none =>
      rw [poll_of_call?_eq_none hcall]
      simp
  | some call =>
      obtain ⟨hmem, rfl⟩ := mem_of_call? hcall
      rw [(h.attempt hcall).get?_eq_some_iff h hmem]
      refine or_congr_right ⟨fun hmade => ⟨call, hmem, hmade.1, rfl, hmade.2⟩, ?_⟩
      rintro ⟨other, hother, hkey, hid, hanswer⟩
      exact ⟨h.eq_of_id hother hmem hid ▸ hkey, hanswer⟩

/-- The values of keys after an event: those that were there, and the one whose constructor ends
with it. -/
theorem Sound.get?_step_eq_some_iff (h : cache.Sound) {event : Event α ε}
    (hfresh : cache.Fresh event) {key : String} {v : α} :
    (cache.step event).1.get? key = some v ↔
      cache.get? key = some v ∨ ∃ call ∈ (cache.letIn event).calls, call.key = key ∧
        (cache.step event).2 = some (call.id, ⟨.ok v, true⟩) := by
  have hgiven : ∀ (id other : Nat) (answer : Option (Answer α ε)),
      answer.map (id, ·) = some (other, ⟨.ok v, true⟩) ↔
        other = id ∧ answer = some ⟨.ok v, true⟩ := by
    intro id other answer
    cases answer <;> simp [eq_comm]
  cases event with
  | arrive id comer work =>
      have hjoined := h.join (hfresh id rfl) comer work
      simp only [Cache.step, letIn, arrive_eq_poll_join, hjoined.get?_poll_eq_some_iff, h.get?_join,
        hgiven]
  | poll id => simp only [Cache.step, letIn, h.get?_poll_eq_some_iff, hgiven]
  | abandon id => simp [Cache.step, get?_abandon]

end Cache

end Signpost
