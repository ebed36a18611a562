import Signpost.Proofs.Cache.Runs

/-!
What a failure leaves behind.  A caller whose constructor fails takes the slot of its key with
it if nobody else of that key is in flight; otherwise the slot stays, with the cell that the
others hold, and the next of them has its own constructor run.  Nothing else changes.
-/

namespace Signpost

namespace Cache

variable {α ε : Type} {cache : Cache α ε}

/-! ### Failing -/

/-- The caller that makes an attempt with an event, if one does. -/
def Event.polled? : Event α ε → Option Nat
  | .arrive id _ _ => some id
  | .poll id => some id
  | .abandon _ => none

/-- The constructor of a caller ends with an error in the course of an event: its caller makes an
attempt, has the turn, and need not give way any more. -/
structure Fails (cache : Cache α ε) (event : Event α ε) (call : Call α ε) (e : ε) : Prop where
  polled : event.polled? = some call.id
  turn : (cache.letIn event).HasTurn call
  ready : call.work.pauses = 0
  result : call.work.result = .error e

theorem step_of_polled {event : Event α ε} {id : Nat} (h : event.polled? = some id) :
    cache.step event =
      (((cache.letIn event).poll id).1, ((cache.letIn event).poll id).2.map (id, ·)) := by
  cases event with
  | arrive other key work =>
      obtain rfl : other = id := Option.some.inj h
      rfl
  | poll other =>
      obtain rfl : other = id := Option.some.inj h
      rfl
  | abandon other => exact absurd h (by simp [Event.polled?])

theorem sound_letIn (h : cache.Sound) {event : Event α ε} (hfresh : cache.Fresh event) :
    (cache.letIn event).Sound := by
  cases event with
  | arrive id key work => exact h.join (hfresh id rfl) key work
  | poll => exact h
  | abandon => exact h

theorem Attempt.of_failing {call : Call α ε} {next : Cache α ε} {answer : Option (Answer α ε)}
    (hattempt : cache.Attempt call next answer) (hturn : cache.HasTurn call)
    (hready : call.work.pauses = 0) {e : ε} (hresult : call.work.result = .error e) :
    next = cache.afterFailure call ∧ answer = some ⟨.error e, true⟩ := by
  cases hattempt with
  | served hvalue =>
      rw [hturn.1] at hvalue
      contradiction
  | waits _ hwaits => exact absurd hturn hwaits
  | yields _ hpauses => exact absurd hready hpauses
  | constructs _ hother =>
      rw [hresult] at hother
      contradiction
  | fails _ hother =>
      rw [hresult] at hother
      obtain rfl := Except.error.inj hother
      exact ⟨rfl, rfl⟩

/-- Whoever ends with an error had the turn, and it is its own error. -/
theorem Attempt.turn_of_error {call : Call α ε} {next : Cache α ε} {e : ε} {ran : Bool}
    (hattempt : cache.Attempt call next (some ⟨.error e, ran⟩)) :
    cache.HasTurn call ∧ call.work.result = .error e := by
  cases hattempt with
  | fails hturn hresult => exact ⟨hturn, hresult⟩

/-- Nobody ends with an error while it has to give way. -/
theorem pauses_eq_zero_of_poll {id : Nat} {call : Call α ε} (hcall : cache.call? id = some call)
    {e : ε} {ran : Bool} (hanswer : (cache.poll id).2 = some ⟨.error e, ran⟩) :
    call.work.pauses = 0 := by
  rw [poll, hcall] at hanswer
  dsimp only at hanswer
  split at hanswer
  · simp at hanswer
  · split at hanswer
    · split at hanswer
      · contradiction
      · next hpauses => exact hpauses
    · contradiction

theorem Sound.exists_fails (h : cache.Sound) {event : Event α ε} (hfresh : cache.Fresh event)
    {id : Nat} {e : ε} {ran : Bool}
    (hanswer : (cache.step event).2 = some (id, ⟨.error e, ran⟩)) :
    ∃ call, cache.Fails event call e ∧ call.id = id := by
  cases hpolled : event.polled? with
  | none =>
      cases event with
      | abandon => contradiction
      | arrive => contradiction
      | poll => contradiction
  | some other =>
      rw [step_of_polled hpolled] at hanswer
      obtain ⟨answer, hpoll, heq⟩ := Option.map_eq_some_iff.mp hanswer
      obtain ⟨rfl, rfl⟩ := Prod.mk.inj heq
      cases hcall : (cache.letIn event).call? other with
      | none =>
          rw [poll_of_call?_eq_none hcall] at hpoll
          contradiction
      | some call =>
          have hready := pauses_eq_zero_of_poll hcall hpoll
          have hattempt := (sound_letIn h hfresh).attempt hcall
          rw [hpoll] at hattempt
          obtain ⟨hturn, hresult⟩ := hattempt.turn_of_error
          obtain ⟨-, rfl⟩ := mem_of_call? hcall
          exact ⟨call, ⟨hpolled, hturn, hready, hresult⟩, rfl⟩

theorem Sound.step_of_fails (h : cache.Sound) {event : Event α ε} (hfresh : cache.Fresh event)
    {call : Call α ε} {e : ε} (hfails : cache.Fails event call e) :
    cache.step event =
      ((cache.letIn event).afterFailure call, some (call.id, ⟨.error e, true⟩)) := by
  have hsound := sound_letIn h hfresh
  have hcall : (cache.letIn event).call? call.id = some call :=
    hsound.call?_eq_some_iff.mpr ⟨hfails.turn.mem, rfl⟩
  obtain ⟨hnext, hanswer⟩ :=
    (hsound.attempt hcall).of_failing hfails.turn hfails.ready hfails.result
  rw [step_of_polled hfails.polled, hnext, hanswer]
  rfl

/-! ### What is left -/

theorem lookup_cellOf_of_ne {key other : String} (hother : other ≠ key) :
    (cache.cellOf key).2.slots.lookup other = cache.slots.lookup other := by
  unfold cellOf
  split
  · rfl
  · simp [List.lookup_append, List.lookup_cons, beq_false_of_ne hother]

theorem cells_cellOf (key : String) : (cache.cellOf key).2.cells = cache.cells := by
  unfold cellOf
  split <;> rfl

theorem cells_enter_of_ne {call : Call α ε} {n : Nat} (hn : n ≠ call.cell) :
    (cache.enter call).cells n = cache.cells n := by
  unfold enter
  dsimp only
  split
  · rfl
  · exact cells_setCell_of_ne hn _

/-- Whoever comes for a key, the slots of other keys and their cells stay as they are. -/
theorem Sound.slot_join_of_ne (h : cache.Sound) (id : Nat) {key other : String}
    (hother : other ≠ key) (work : Work α ε) :
    (cache.join id key work).slots.lookup other = cache.slots.lookup other ∧
      ∀ n, cache.slots.lookup other = some n →
        (cache.join id key work).cells n = cache.cells n := by
  have hslots : (cache.cellOf key).2.slots.lookup other = cache.slots.lookup other :=
    lookup_cellOf_of_ne hother
  constructor
  · rw [Cache.join, slots_enter, hslots]
  · intro n hn
    have hcell : n ≠ (cache.cellOf key).1 := by
      obtain ⟨hsound, hslot⟩ := h.cellOf key
      rintro rfl
      exact hother (hsound.own other key _ (hslots.trans hn) hslot)
    rw [Cache.join, cells_enter_of_ne hcell, cells_cellOf]

/-- A failure changes nothing about another key. -/
theorem Sound.slot_afterFailure_of_ne (h : cache.Sound) {call : Call α ε}
    (hturn : cache.HasTurn call) {other : String} (hother : other ≠ call.key) :
    (cache.afterFailure call).slots.lookup other = cache.slots.lookup other ∧
      ∀ n, cache.slots.lookup other = some n →
        (cache.afterFailure call).cells n = cache.cells n := by
  have hcells : ∀ n, cache.slots.lookup other = some n →
      (cache.leaveLine call).cells n = cache.cells n := by
    intro n hn
    apply cells_setCell_of_ne
    rintro rfl
    exact hother (h.own other call.key _ hn (h.held call hturn.mem))
  rw [h.afterFailure_eq hturn.mem hturn.1]
  split
  · constructor
    · rw [Cache.dropSlot, lookup_filter_ne hother]
      rfl
    · exact hcells
  · exact ⟨rfl, hcells⟩

theorem length_filter_id_ne {calls : List (Call α ε)} (hnodup : (calls.map Call.id).Nodup)
    {call : Call α ε} (hcall : call ∈ calls) :
    (calls.filter fun other => other.id != call.id).length + 1 = calls.length := by
  have herase : (calls.map Call.id).erase call.id =
      (calls.filter fun other => other.id != call.id).map Call.id := by
    rw [hnodup.erase_eq_filter, map_id_filter_ne]
  have hmem : call.id ∈ calls.map Call.id := List.mem_map_of_mem hcall
  have hlength := List.length_erase_of_mem hmem
  have hpos := List.length_pos_of_mem hcall
  rw [herase, List.length_map, List.length_map] at hlength
  omega

/-- The slot of the key that failed stays as long as anybody of that key is in flight. -/
theorem Sound.slot_afterFailure_self (h : cache.Sound) {call : Call α ε}
    (hturn : cache.HasTurn call) :
    ((cache.afterFailure call).inFlight call.key = [] →
        call.key ∉ (cache.afterFailure call).slots.map Prod.fst) ∧
      ((cache.afterFailure call).inFlight call.key ≠ [] →
        (cache.afterFailure call).slots = cache.slots) := by
  have hleft : (cache.afterFailure call).inFlight call.key =
      (cache.inFlight call.key).filter fun other => other.id != call.id :=
    inFlight_of_calls_eq (h.calls_afterFailure hturn) call.key
  have hnodup : ((cache.inFlight call.key).map Call.id).Nodup :=
    h.ids_nodup.sublist (List.filter_sublist.map Call.id)
  have hlength := length_filter_id_ne hnodup (mem_inFlight.mpr ⟨hturn.mem, rfl⟩)
  rw [← hleft] at hlength
  rw [h.afterFailure_eq hturn.mem hturn.1] at hlength ⊢
  by_cases honly : (cache.inFlight call.key).length = 1
  · rw [if_pos honly] at hlength ⊢
    constructor
    · intro _ hmem
      obtain ⟨slot, hslot, hkey⟩ := List.mem_map.mp hmem
      have hne := (List.mem_filter.mp hslot).2
      simp [hkey] at hne
    · intro hothers
      have hpos := List.length_pos_iff.mpr hothers
      omega
  · rw [if_neg honly] at hlength ⊢
    constructor
    · intro hnone
      rw [hnone, List.length_nil] at hlength
      omega
    · intro _
      rfl

/-- Whoever has the turn has its constructor run when it is polled. -/
theorem Sound.runs_of_turn (h : cache.Sound) {first : Call α ε} (hturn : cache.HasTurn first) :
    cache.Runs (.poll first.id) first.id := by
  have hcall : cache.call? first.id = some first :=
    h.call?_eq_some_iff.mpr ⟨hturn.mem, rfl⟩
  have hattempt := h.attempt hcall
  have hsound := h.poll first.id
  unfold Runs Cache.step
  dsimp only
  generalize (cache.poll first.id).1 = next at hattempt hsound ⊢
  generalize (cache.poll first.id).2 = answer at hattempt ⊢
  cases hattempt with
  | served hvalue =>
      rw [hturn.1] at hvalue
      contradiction
  | waits _ hwaits => exact absurd hturn hwaits
  | constructs => exact Or.inl ⟨_, rfl⟩
  | fails => exact Or.inl ⟨_, rfl⟩
  | yields _ hpauses =>
      have hlater : (cache.giveWay first).call? first.id = some (afterPause first first) := by
        rw [hsound.call?_eq_some_iff, calls_giveWay]
        constructor
        · exact List.mem_map_of_mem hturn.mem
        · rw [afterPause_self]
      apply Or.inr
      refine ⟨first.work.pauses, first.work.pauses - 1, ?_, ?_, by omega⟩
      · change cache.pausesLeft? first.id = _
        rw [pausesLeft?, hcall]
        rfl
      · rw [pausesLeft?, hlater, afterPause_self]
        rfl

/-! ### Every failure of every run -/

/-- What is left of a cache by an event with which the constructor of a caller fails. -/
structure Withdraws (cache : Cache α ε) (event : Event α ε) (call : Call α ε) (next : Cache α ε) :
    Prop where
  /-- The caller is gone, and all others are in flight as they were. -/
  calls : next.calls = (cache.letIn event).calls.filter fun other => other.id != call.id
  /-- If no other caller of the key is in flight, the key has no slot. -/
  released : next.inFlight call.key = [] → call.key ∉ next.slots.map Prod.fst
  /-- If others are, its slot is the one it had, with the cell that they hold, -/
  kept : ∀ other ∈ next.inFlight call.key,
    next.slots.lookup call.key = some other.cell ∧
      cache.slots.lookup call.key = some other.cell
  /-- and the first of them has its own constructor run next. -/
  handed : ∀ first, (next.inFlight call.key).head? = some first →
    next.Runs (.poll first.id) first.id
  /-- The slots of other keys are as they were, and so are their cells, -/
  apart : ∀ other, other ≠ call.key →
    next.slots.lookup other = cache.slots.lookup other ∧
      ∀ n, cache.slots.lookup other = some n → next.cells n = cache.cells n
  /-- and so is what has been constructed. -/
  values : ∀ key, next.get? key = cache.get? key

/-- A caller that comes finds the others of its key at the slot that the key has. -/
theorem Sound.slot_of_mem_letIn (h : cache.Sound) {event : Event α ε} {call other : Call α ε}
    (hpolled : event.polled? = some call.id) (hother : other ∈ (cache.letIn event).calls)
    (hid : other.id ≠ call.id) : cache.slots.lookup other.key = some other.cell := by
  rcases mem_calls_letIn hother with hold | rfl
  · exact h.held other hold
  · exact absurd (Option.some.inj hpolled) hid

theorem Sound.withdraws (h : cache.Sound) {event : Event α ε} (hfresh : cache.Fresh event)
    {call : Call α ε} {e : ε} (hfails : cache.Fails event call e) :
    cache.Withdraws event call (cache.step event).1 := by
  have hsound := sound_letIn h hfresh
  have hturn := hfails.turn
  have hafter := hsound.afterFailure hturn.mem hturn.1
  have hcalls := hsound.calls_afterFailure hturn
  have hvalues : ∀ key, ((cache.letIn event).afterFailure call).get? key = cache.get? key := by
    intro key
    rw [hsound.get?_afterFailure hturn key]
    cases event with
    | arrive id own work => exact h.get?_join id own work key
    | poll => rfl
    | abandon => rfl
  rw [h.step_of_fails hfresh hfails]
  constructor
  case calls => exact hcalls
  case released => exact (hsound.slot_afterFailure_self hturn).1
  case kept =>
    intro other hother
    obtain ⟨hmem, hkey⟩ := mem_inFlight.mp hother
    constructor
    · rw [← hkey]
      exact hafter.held other hmem
    · rw [hcalls] at hmem
      obtain ⟨hmem, hid⟩ := List.mem_filter.mp hmem
      rw [← hkey]
      exact h.slot_of_mem_letIn hfails.polled hmem (by simpa using hid)
  case handed =>
    intro first hfirst
    have hkey := (mem_inFlight.mp (List.mem_of_head? hfirst)).2
    apply hafter.runs_of_turn
    constructor
    · rw [hkey, hsound.get?_afterFailure hturn]
      exact hturn.1
    · rw [hkey]
      exact hfirst
  case apart =>
    intro other hother
    obtain ⟨hslot, hcell⟩ := hsound.slot_afterFailure_of_ne hturn hother
    cases event with
    | arrive id key work =>
        have hown : call.key = key := by
          rcases mem_calls_letIn hturn.mem with hold | heq
          · exact absurd (Option.some.inj hfails.polled).symm (hfresh id rfl call hold)
          · exact (Event.arrive.inj heq).2.1.symm
        obtain ⟨hjoined, hkept⟩ := h.slot_join_of_ne id (hown ▸ hother) work
        constructor
        · exact hslot.trans hjoined
        · intro n hn
          exact (hcell n (hjoined.trans hn)).trans (hkept n hn)
    | poll => exact ⟨hslot, hcell⟩
    | abandon => exact ⟨hslot, hcell⟩
  case values => exact hvalues

/-- Whatever has happened to a cache before, callers having given up included: an error comes from
the constructor of the caller that it is returned to, as that caller brought it along, and the
failure leaves nothing behind but what the other callers of the key are waiting at. -/
theorem failure_withdraws (partition : String) (events : List (Event α ε)) (event : Event α ε)
    (hnodup : (arrivals (events ++ [event])).Nodup) :
    let cache := after partition events
    (∀ id e ran, (cache.step event).2 = some (id, ⟨.error e, ran⟩) →
        ∃ call, cache.Fails event call e ∧ call.id = id) ∧
      ∀ call e, cache.Fails event call e →
        (∃ pauses, .arrive call.id call.key ⟨pauses, .error e⟩ ∈ events ++ [event]) ∧
          (cache.step event).2 = some (call.id, ⟨.error e, true⟩) ∧
          cache.Withdraws event call (cache.step event).1 := by
  intro cache
  have hdistinct : Distinct [] (events ++ [event]) := ⟨hnodup, fun _ _ => List.not_mem_nil⟩
  have hsound : cache.Sound := sound_after partition hdistinct.front
  have hfresh : cache.Fresh event := fresh_after partition hdistinct
  constructor
  · intro id e ran hanswer
    exact hsound.exists_fails hfresh hanswer
  · intro call e hfails
    refine ⟨?_, ?_, hsound.withdraws hfresh hfails⟩
    · rw [← hfails.result]
      exact arrival_of_mem_letIn hdistinct hfails.turn.mem
    · rw [hsound.step_of_fails hfresh hfails]

/-- The first caller of `threeForOne` as it fails: another is waiting for the key, which keeps its
slot.  The same failure of a caller that is alone leaves no slot. -/
theorem failure_withdraws_threeForOne :
    let cache := after "t" (threeForOne.take 5)
    let next := (cache.step (.poll 0)).1
    let call : Call String String := ⟨0, "a", 0, ⟨0, .error "no"⟩⟩
    let alone : Event String String := .arrive 0 "a" call.work
    (arrivals (threeForOne.take 5 ++ [.poll 0])).Nodup ∧ cache.Fails (.poll 0) call "no" ∧
      cache.Withdraws (.poll 0) call next ∧
      (next.inFlight "a").map Call.id = [3] ∧ next.slots = [("a", 0), ("b", 1)] ∧
      (empty "t").Fails alone call "no" ∧
      (empty "t").Withdraws alone call ((empty "t").step alone).1 ∧
      ((empty "t").step alone).1.slots = [] := by
  intro cache next call alone
  have hfails : cache.Fails (.poll 0) call "no" := ⟨rfl, ⟨rfl, rfl⟩, rfl, rfl⟩
  have halone : (empty "t").Fails alone call "no" := ⟨rfl, ⟨rfl, rfl⟩, rfl, rfl⟩
  have hothers := failure_withdraws "t" (threeForOne.take 5) (.poll 0) (by decide)
  have hnone := failure_withdraws "t" [] alone (by decide)
  exact ⟨by decide, hfails, (hothers.2 call "no" hfails).2.2, by decide, by decide, halone,
    (hnone.2 call "no" halone).2.2, by decide⟩

end Cache

end Signpost
