import Signpost.Proofs.Cache.Release
import Signpost.Proofs.Cache.Retention

/-!
Slots that are left behind.  A slot without a value stands for the callers of its key that are
in flight.  Whoever comes to its end as the last of them takes the slot along or leaves a value
in it; whoever gives up as the last of them leaves the slot as it is, and there it stays until
its key is asked for again.
-/

namespace Signpost

namespace Cache

variable {α ε : Type} {cache next : Cache α ε} {key : String}

/-- A key has a slot, and nothing has been constructed in it. -/
def HasBareSlot (cache : Cache α ε) (key : String) : Prop :=
  ∃ n, cache.slots.lookup key = some n ∧ (cache.cells n).value = none

/-- A slot without a value, for which nobody is in flight. -/
structure Deserted (cache : Cache α ε) (key : String) : Prop where
  bare : cache.HasBareSlot key
  nobody : cache.inFlight key = []

theorem hasBareSlot_iff :
    cache.HasBareSlot key ↔ (cache.slots.lookup key).isSome ∧ cache.get? key = none := by
  unfold HasBareSlot get?
  cases cache.slots.lookup key with
  | none => simp
  | some n => simp

theorem Sound.hasBareSlot (h : cache.Sound) {call : Call α ε} (hcall : call ∈ cache.calls)
    (hvalue : cache.get? call.key = none) : cache.HasBareSlot call.key := by
  rw [hasBareSlot_iff, h.held call hcall]
  exact ⟨rfl, hvalue⟩

theorem Deserted.not_mem (h : cache.Deserted key) {call : Call α ε} (hcall : call ∈ cache.calls) :
    call.key ≠ key := by
  intro hkey
  have hmem : call ∈ cache.inFlight key := mem_inFlight.mpr ⟨hcall, hkey⟩
  rw [h.nobody] at hmem
  exact List.not_mem_nil hmem

/-- Whether a key is deserted shows in its slot, its value and its callers. -/
theorem deserted_congr (hslot : next.slots.lookup key = cache.slots.lookup key)
    (hget : next.get? key = cache.get? key)
    (hcalls : next.inFlight key = [] ↔ cache.inFlight key = []) :
    next.Deserted key ↔ cache.Deserted key := by
  have hbare : next.HasBareSlot key ↔ cache.HasBareSlot key := by
    rw [hasBareSlot_iff, hasBareSlot_iff, hslot, hget]
  constructor
  · intro h
    exact ⟨hbare.mp h.bare, hcalls.mp h.nobody⟩
  · intro h
    exact ⟨hbare.mpr h.bare, hcalls.mpr h.nobody⟩

/-! ### One event -/

/-- No attempt of a caller leaves a slot behind at its own key. -/
theorem Attempt.not_deserted {call : Call α ε} {answer : Option (Answer α ε)}
    (hattempt : cache.Attempt call next answer) (h : cache.Sound) (hcall : call ∈ cache.calls) :
    ¬ next.Deserted call.key := by
  intro hdeserted
  have hopen := (hasBareSlot_iff.mp hdeserted.bare).2
  cases hattempt with
  | served hvalue =>
      change cache.get? call.key = none at hopen
      rw [hvalue] at hopen
      contradiction
  | waits => exact hdeserted.not_mem hcall rfl
  | yields =>
      have hstays : afterPause call call ∈ (cache.giveWay call).calls := List.mem_map_of_mem hcall
      exact hdeserted.not_mem hstays (h.afterPause_same hcall hcall).2.1
  | constructs =>
      rw [h.get?_fill_self hcall] at hopen
      contradiction
  | fails hturn =>
      obtain ⟨n, hslot, -⟩ := hdeserted.bare
      obtain ⟨front, back, hslots, -⟩ := List.lookup_eq_some_iff.mp hslot
      apply (h.slot_afterFailure_self hturn).1 hdeserted.nobody
      rw [hslots]
      simp

/-- An attempt neither leaves a slot behind nor takes up one that has been left. -/
theorem Attempt.deserted_iff {call : Call α ε} {answer : Option (Answer α ε)}
    (hattempt : cache.Attempt call next answer) (h : cache.Sound) (hcall : call ∈ cache.calls) :
    next.Deserted key ↔ cache.Deserted key := by
  by_cases hkey : key = call.key
  · subst hkey
    constructor
    · intro hdeserted
      exact absurd hdeserted (hattempt.not_deserted h hcall)
    · intro hdeserted
      exact absurd rfl (hdeserted.not_mem hcall)
  · cases hattempt with
    | served => exact deserted_congr rfl rfl (by rw [h.inFlight_of_ne hcall rfl hkey])
    | waits => exact Iff.rfl
    | yields =>
        refine deserted_congr rfl rfl ?_
        rw [h.inFlight_giveWay hcall, List.map_eq_nil_iff]
    | constructs =>
        exact deserted_congr rfl (h.get?_fill_of_ne hcall _ hkey)
          (by rw [h.inFlight_of_ne hcall rfl hkey])
    | fails hturn =>
        exact deserted_congr (h.slot_afterFailure_of_ne hturn hkey).1
          (h.get?_afterFailure hturn key)
          (by rw [h.inFlight_of_ne hcall (h.calls_afterFailure hturn) hkey])

theorem Sound.deserted_poll_iff (h : cache.Sound) (id : Nat) :
    (cache.poll id).1.Deserted key ↔ cache.Deserted key := by
  cases hcall : cache.call? id with
  | none => rw [poll_of_call?_eq_none hcall]
  | some call => exact (h.attempt hcall).deserted_iff h (mem_of_call? hcall).1

/-- Whoever comes for a key takes up the slot that has been left there. -/
theorem Sound.deserted_join_iff (h : cache.Sound) (id : Nat) (comer : String) (work : Work α ε) :
    (cache.join id comer work).Deserted key ↔ cache.Deserted key ∧ comer ≠ key := by
  by_cases hkey : key = comer
  · subst hkey
    have hcomes : ⟨id, key, (cache.cellOf key).1, work⟩ ∈ (cache.join id key work).calls :=
      mem_calls_join.mpr (Or.inr rfl)
    constructor
    · intro hdeserted
      exact absurd rfl (hdeserted.not_mem hcomes)
    · intro hdeserted
      exact absurd rfl hdeserted.2
  · have hcalls : (cache.join id comer work).inFlight key = cache.inFlight key := by
      rw [inFlight, calls_join, List.filter_append]
      simp [inFlight, Ne.symm hkey]
    rw [deserted_congr (h.slot_join_of_ne id hkey work).1 (h.get?_join id comer work key)
      (by rw [hcalls])]
    constructor
    · intro hdeserted
      exact ⟨hdeserted, Ne.symm hkey⟩
    · exact And.left

/-- The last caller of its key in flight gives up while the key has no value. -/
structure Deserts (cache : Cache α ε) (event : Event α ε) (call : Call α ε) : Prop where
  gives_up : event = .abandon call.id
  last : cache.inFlight call.key = [call]
  valueless : cache.get? call.key = none

theorem Deserts.mem {event : Event α ε} {call : Call α ε} (h : cache.Deserts event call) :
    call ∈ cache.calls := by
  have hmem : call ∈ cache.inFlight call.key := h.last ▸ List.mem_singleton_self call
  exact (mem_inFlight.mp hmem).1

/-- Of callers under different numbers nobody is left without one of them if and only if that one
is alone. -/
theorem filter_id_ne_eq_nil_iff {calls : List (Call α ε)} (hnodup : (calls.map Call.id).Nodup)
    {call : Call α ε} (hcall : call ∈ calls) :
    (calls.filter fun other => other.id != call.id) = [] ↔ calls = [call] := by
  constructor
  · intro hnone
    have hlength := length_filter_id_ne hnodup hcall
    rw [hnone, List.length_nil, Nat.zero_add] at hlength
    obtain ⟨only, rfl⟩ := List.length_eq_one_iff.mp hlength.symm
    rw [List.mem_singleton.mp hcall]
  · rintro rfl
    simp

theorem Sound.last_iff (h : cache.Sound) {call : Call α ε} (hcall : call ∈ cache.calls) :
    ((cache.inFlight key).filter fun other => other.id != call.id) = [] ↔
      cache.inFlight key = [] ∨ call.key = key ∧ cache.inFlight key = [call] := by
  by_cases hkey : call.key = key
  · subst hkey
    have hself : call ∈ cache.inFlight call.key := mem_inFlight.mpr ⟨hcall, rfl⟩
    have hnodup : ((cache.inFlight call.key).map Call.id).Nodup :=
      h.ids_nodup.sublist (List.filter_sublist.map Call.id)
    rw [filter_id_ne_eq_nil_iff hnodup hself]
    simp [List.ne_nil_of_mem hself]
  · have hothers : (cache.removeCall call.id).inFlight key = cache.inFlight key :=
      h.inFlight_of_ne hcall rfl (Ne.symm hkey)
    rw [inFlight_removeCall] at hothers
    rw [hothers]
    simp [hkey]

/-- A slot is left behind when the last caller of its key gives up. -/
theorem Sound.deserted_abandon_iff (h : cache.Sound) (id : Nat) :
    (cache.abandon id).Deserted key ↔
      cache.Deserted key ∨ ∃ call, call.key = key ∧ cache.Deserts (.abandon id) call := by
  cases hcall : cache.call? id with
  | none =>
      have hsame : cache.abandon id = cache := by rw [Cache.abandon, hcall]
      have hnobody : ∀ call, ¬ cache.Deserts (.abandon id) call := by
        intro call hdeserts
        exact call?_eq_none_iff.mp hcall call hdeserts.mem
          (Event.abandon.inj hdeserts.gives_up).symm
      simp [hsame, hnobody]
  | some call =>
      obtain ⟨hmem, rfl⟩ := mem_of_call? hcall
      have hgone : cache.abandon call.id = (cache.leaveLine call).removeCall call.id := by
        rw [Cache.abandon, hcall]
      have hleft : (cache.abandon call.id).inFlight key = [] ↔
          cache.inFlight key = [] ∨ call.key = key ∧ cache.inFlight key = [call] := by
        rw [← h.last_iff hmem, hgone, inFlight_removeCall]
        rfl
      have hbare : (cache.abandon call.id).HasBareSlot key ↔ cache.HasBareSlot key := by
        rw [hasBareSlot_iff, hasBareSlot_iff, get?_abandon, slots_abandon]
      constructor
      · intro hdeserted
        have hslot := hbare.mp hdeserted.bare
        rcases hleft.mp hdeserted.nobody with hnobody | ⟨rfl, hlast⟩
        · exact Or.inl ⟨hslot, hnobody⟩
        · exact Or.inr ⟨call, rfl, rfl, hlast, (hasBareSlot_iff.mp hslot).2⟩
      · rintro (hdeserted | ⟨other, rfl, hdeserts⟩)
        · exact ⟨hbare.mpr hdeserted.bare, hleft.mpr (Or.inl hdeserted.nobody)⟩
        · have hsame : call = other :=
            h.eq_of_id hmem hdeserts.mem (Event.abandon.inj hdeserts.gives_up)
          subst hsame
          exact ⟨hbare.mpr (h.hasBareSlot hmem hdeserts.valueless),
            hleft.mpr (Or.inr ⟨rfl, hdeserts.last⟩)⟩

/-- The key that somebody comes for with an event, if somebody does. -/
def Event.asked? : Event α ε → Option String
  | .arrive _ key _ => some key
  | _ => none

/-- What an event does to slots that nobody will fill: one is left behind by the last caller that
gives up, and the next caller takes it up. -/
theorem Sound.deserted_step_iff (h : cache.Sound) {event : Event α ε} (hfresh : cache.Fresh event) :
    (cache.step event).1.Deserted key ↔
      (cache.Deserted key ∧ event.asked? ≠ some key) ∨
        ∃ call, call.key = key ∧ cache.Deserts event call := by
  cases event with
  | arrive id comer work =>
      have hnobody : ∀ call, ¬ cache.Deserts (.arrive id comer work) call := by
        intro call hdeserts
        exact absurd hdeserts.gives_up (by simp)
      have hjoined := h.join (hfresh id rfl) comer work
      simp only [Cache.step, arrive_eq_poll_join, hjoined.deserted_poll_iff, h.deserted_join_iff,
        Event.asked?, hnobody, and_false, exists_false, or_false, ne_eq, Option.some.injEq]
  | poll id =>
      have hnobody : ∀ call, ¬ cache.Deserts (.poll id) call := by
        intro call hdeserts
        exact absurd hdeserts.gives_up (by simp)
      simp [Cache.step, h.deserted_poll_iff, Event.asked?, hnobody]
  | abandon id => simp [Cache.step, h.deserted_abandon_iff, Event.asked?]

/-! ### Every moment of every run -/

/-- A caller of a key has given up as the last one in the course of a run, while the key had no
value, and nobody has asked for the key since. -/
def LeftBehind (partition : String) (events : List (Event α ε)) (key : String) : Prop :=
  ∃ before event rest call, events = before ++ event :: rest ∧ call.key = key ∧
    (after partition before).Deserts event call ∧ ∀ later ∈ rest, later.asked? ≠ some key

theorem leftBehind_concat_iff {partition : String} {events : List (Event α ε)}
    {event : Event α ε} :
    LeftBehind partition (events ++ [event]) key ↔
      (LeftBehind partition events key ∧ event.asked? ≠ some key) ∨
        ∃ call, call.key = key ∧ (after partition events).Deserts event call := by
  constructor
  · rintro ⟨before, first, rest, call, hsplit, hkey, hdeserts, hlater⟩
    rcases List.eq_nil_or_concat rest with rfl | ⟨front, last, rfl⟩
    · obtain ⟨rfl, hevent⟩ := List.append_inj' hsplit rfl
      obtain rfl := (List.cons.inj hevent).1
      exact Or.inr ⟨call, hkey, hdeserts⟩
    · rw [List.concat_eq_append, ← List.cons_append, ← List.append_assoc] at hsplit
      obtain ⟨rfl, hevent⟩ := List.append_inj' hsplit rfl
      obtain rfl := (List.cons.inj hevent).1
      rw [List.concat_eq_append] at hlater
      obtain ⟨hfront, hlast⟩ := List.forall_mem_append.mp hlater
      exact Or.inl ⟨⟨before, first, front, call, rfl, hkey, hdeserts, hfront⟩,
        hlast event List.mem_cons_self⟩
  · rintro (⟨⟨before, first, rest, call, rfl, hkey, hdeserts, hlater⟩, hasked⟩ |
      ⟨call, hkey, hdeserts⟩)
    · refine ⟨before, first, rest ++ [event], call, by simp, hkey, hdeserts, ?_⟩
      exact List.forall_mem_append.mpr ⟨hlater, List.forall_mem_singleton.mpr hasked⟩
    · exact ⟨events, event, [], call, rfl, hkey, hdeserts, by simp⟩

/-- However callers come, are polled and give up: a key has a slot without a value and nobody in
flight if and only if the last of its callers gave up and nobody has asked for the key since.  By
induction on the run, each event doing the same to both sides. -/
theorem deserted_iff_leftBehind (partition : String) (events : List (Event α ε))
    (hnodup : (arrivals events).Nodup) (key : String) :
    (after partition events).Deserted key ↔ LeftBehind partition events key := by
  have hdistinct : Distinct [] events := ⟨hnodup, fun _ _ => List.not_mem_nil⟩
  clear hnodup
  induction events using List.reverseRecOn with
  | nil =>
      constructor
      · intro hdeserted
        obtain ⟨n, hslot, -⟩ := hdeserted.bare
        exact absurd hslot (by simp [after, Cache.run, empty])
      · rintro ⟨before, event, rest, call, hsplit, -⟩
        exact absurd hsplit (by simp)
  | append_singleton before event ih =>
      have hbefore : (after partition before).Deserted key ↔ LeftBehind partition before key :=
        ih hdistinct.front
      rw [after_concat, leftBehind_concat_iff, ← hbefore]
      exact (sound_after partition hdistinct.front).deserted_step_iff
        (fresh_after partition hdistinct)

/-- Two callers of one key: the first fails, and as the second is waiting the slot stays; then
the second gives up. -/
def failThenGiveUp : List (Event String String) :=
  [.arrive 0 "a" ⟨1, .error "no"⟩, .arrive 1 "a" ⟨0, .ok "lost"⟩, .poll 0, .abandon 1]

theorem deserted_iff_leftBehind_failThenGiveUp :
    (arrivals failThenGiveUp).Nodup ∧
      ((after "t" failThenGiveUp).Deserted "a" ↔ LeftBehind "t" failThenGiveUp "a") ∧
      (after "t" failThenGiveUp).slots = [("a", 0)] ∧
      LeftBehind "t" failThenGiveUp "a" := by
  have hiff := deserted_iff_leftBehind "t" failThenGiveUp (by decide) "a"
  have hdeserted : (after "t" failThenGiveUp).Deserted "a" := ⟨⟨0, by decide, rfl⟩, rfl⟩
  exact ⟨by decide, hiff, by decide, hiff.mp hdeserted⟩

/-- A caller that gives up while its constructor is in progress leaves a slot behind: the key has
one, without a value, and nobody is in flight. -/
theorem slot_outlives_callers :
    let cache : Cache String String := after "t" [.arrive 0 "a" ⟨1, .ok "late"⟩, .abandon 0]
    cache.slots = [("a", 0)] ∧ (cache.cells 0).value = none ∧ cache.calls.map Call.id = [] := by
  decide

end Cache

end Signpost
