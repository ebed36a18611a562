import Signpost.Proofs.Cache.Cells

/-!
What one attempt of a caller comes to, and that the callers of one key take turns:
as long as a key has no value, the first of its callers in flight has the turn, and
nobody else gets any work done.
-/

namespace Signpost

namespace Cache

variable {α ε : Type} {cache : Cache α ε}

/-- Whose turn it is to construct: the first caller in flight of a key without a value. -/
def HasTurn (cache : Cache α ε) (call : Call α ε) : Prop :=
  cache.get? call.key = none ∧ (cache.inFlight call.key).head? = some call

theorem HasTurn.mem {call : Call α ε} (h : cache.HasTurn call) : call ∈ cache.calls :=
  (mem_inFlight.mp (List.mem_of_head? h.2)).1

/-- Only one caller of a key has the turn. -/
theorem HasTurn.eq {first second : Call α ε} (hfirst : cache.HasTurn first)
    (hsecond : cache.HasTurn second) (hkey : first.key = second.key) : first = second := by
  have hhead := hsecond.2
  rw [← hkey, hfirst.2] at hhead
  exact Option.some.inj hhead

/-- The turn shows in the line at the cell. -/
theorem Sound.hasTurn_iff (h : cache.Sound) {call : Call α ε} (hcall : call ∈ cache.calls)
    (hvalue : cache.get? call.key = none) :
    cache.HasTurn call ↔ (cache.cells call.cell).line.head? = some call.id := by
  have hopen := h.get?_eq hcall ▸ hvalue
  rw [HasTurn, h.line _ hopen, h.holding_eq_inFlight hcall, List.head?_map]
  constructor
  · rintro ⟨-, hhead⟩
    simp [hhead]
  · intro hhead
    obtain ⟨other, hother, hid⟩ := Option.map_eq_some_iff.mp hhead
    have hmem := (mem_inFlight.mp (List.mem_of_head? hother)).1
    rw [h.eq_of_id hmem hcall hid] at hother
    exact ⟨hvalue, hother⟩

/-- The cache after a caller has given way once. -/
def giveWay (cache : Cache α ε) (call : Call α ε) : Cache α ε :=
  let later := { call with work := { call.work with pauses := call.work.pauses - 1 } }
  { cache with calls := cache.calls.map fun c => if c.id == call.id then later else c }

/-- The cache after a caller has constructed the value of its key. -/
def fill (cache : Cache α ε) (call : Call α ε) (v : α) : Cache α ε :=
  (cache.setCell call.cell ⟨some v, []⟩).removeCall call.id

/-- What an attempt of a caller in flight can come to. -/
inductive Attempt (cache : Cache α ε) (call : Call α ε) :
    Cache α ε → Option (Answer α ε) → Prop where
  /-- The value is there. -/
  | served {v : α} (hvalue : cache.get? call.key = some v) :
      Attempt cache call (cache.removeCall call.id) (some ⟨.ok v, false⟩)
  /-- Another caller has the turn. -/
  | waits (hvalue : cache.get? call.key = none) (hturn : ¬ cache.HasTurn call) :
      Attempt cache call cache none
  /-- Its constructor gives way. -/
  | yields (hturn : cache.HasTurn call) (hpauses : call.work.pauses ≠ 0) :
      Attempt cache call (cache.giveWay call) none
  /-- Its constructor ends with a value. -/
  | constructs {v : α} (hturn : cache.HasTurn call) (hresult : call.work.result = .ok v) :
      Attempt cache call (cache.fill call v) (some ⟨.ok v, true⟩)
  /-- Its constructor ends with an error. -/
  | fails {e : ε} (hturn : cache.HasTurn call) (hresult : call.work.result = .error e) :
      Attempt cache call (cache.afterFailure call) (some ⟨.error e, true⟩)

theorem Sound.attempt (h : cache.Sound) {id : Nat} {call : Call α ε}
    (hcall : cache.call? id = some call) :
    cache.Attempt call (cache.poll id).1 (cache.poll id).2 := by
  obtain ⟨hmem, rfl⟩ := mem_of_call? hcall
  have hget := h.get?_eq hmem
  unfold poll
  rw [hcall]
  cases hvalue : (cache.cells call.cell).value with
  | some v =>
      simp only [hvalue]
      exact .served (hget.trans hvalue)
  | none =>
      have hopen := hget.trans hvalue
      simp only [hvalue]
      split
      · next hhead =>
          have hturn := (h.hasTurn_iff hmem hopen).mpr hhead
          split
          · next left hleft =>
              have hnext : cache.giveWay call = { cache with calls := cache.calls.map fun c =>
                  if c.id == call.id then { call with work := { call.work with pauses := left } }
                  else c } := by
                rw [giveWay, hleft]
                rfl
              rw [← hnext]
              exact .yields hturn (by simp [hleft])
          · split
            · next v hresult => exact .constructs hturn hresult
            · next e hresult => exact .fails hturn hresult
      · next hhead =>
          exact .waits hopen (mt (h.hasTurn_iff hmem hopen).mp hhead)

theorem poll_of_call?_eq_none {id : Nat} (h : cache.call? id = none) :
    cache.poll id = (cache, none) := by
  rw [poll, h]

/-! ### What an attempt leaves behind -/

theorem get?_leave (call : Call α ε) (id : Nat) (key : String) :
    ((cache.leaveLine call).removeCall id).get? key = cache.get? key := by
  unfold get?
  change (cache.slots.lookup key).bind _ = _
  congr 1
  funext n
  by_cases hn : n = call.cell
  · subst hn
    simp [removeCall, leaveLine]
  · simp [removeCall, leaveLine, cells_setCell_of_ne hn]

theorem get?_dropSlot {key : String} (hkey : cache.get? key = none) (other : String) :
    (cache.dropSlot key).get? other = cache.get? other := by
  by_cases hother : other = key
  · subst hother
    rw [hkey, get?, dropSlot, lookup_filter_self]
    rfl
  · rw [get?, dropSlot, lookup_filter_ne hother]
    rfl

theorem Sound.get?_afterFailure (h : cache.Sound) {call : Call α ε} (hturn : cache.HasTurn call)
    (key : String) : (cache.afterFailure call).get? key = cache.get? key := by
  rw [h.afterFailure_eq hturn.mem hturn.1]
  split
  · rw [get?_dropSlot ((get?_leave call call.id call.key).trans hturn.1), get?_leave]
  · exact get?_leave call call.id key

theorem Sound.calls_afterFailure (h : cache.Sound) {call : Call α ε}
    (hturn : cache.HasTurn call) :
    (cache.afterFailure call).calls = cache.calls.filter fun other => other.id != call.id := by
  rw [h.afterFailure_eq hturn.mem hturn.1]
  split <;> rfl

theorem Sound.get?_fill_self (h : cache.Sound) {call : Call α ε} (hcall : call ∈ cache.calls)
    (v : α) : (cache.fill call v).get? call.key = some v := by
  change (cache.slots.lookup call.key).bind _ = some v
  rw [h.held call hcall]
  simp [fill, removeCall]

theorem Sound.get?_fill_of_ne (h : cache.Sound) {call : Call α ε} (hcall : call ∈ cache.calls)
    (v : α) {key : String} (hkey : key ≠ call.key) :
    (cache.fill call v).get? key = cache.get? key := by
  change (cache.slots.lookup key).bind _ = (cache.slots.lookup key).bind _
  cases hslot : cache.slots.lookup key with
  | none => rfl
  | some n =>
      have hn : n ≠ call.cell := by
        rintro rfl
        exact hkey (h.own key call.key _ hslot (h.held call hcall))
      simp [fill, removeCall, cells_setCell_of_ne hn]

/-- What becomes of the callers in flight when one of them gives way: its own work gets
shorter. -/
def afterPause (call other : Call α ε) : Call α ε :=
  if other.id == call.id then
    { call with work := { call.work with pauses := call.work.pauses - 1 } }
  else other

theorem calls_giveWay (call : Call α ε) :
    (cache.giveWay call).calls = cache.calls.map (afterPause call) := rfl

theorem afterPause_self (call : Call α ε) :
    afterPause call call =
      { call with work := { call.work with pauses := call.work.pauses - 1 } } := by
  simp [afterPause]

theorem afterPause_of_ne {call other : Call α ε} (h : other.id ≠ call.id) :
    afterPause call other = other := by
  simp [afterPause, h]

/-- A caller that gives way keeps its number, key and cell, and what it will come to. -/
theorem Sound.afterPause_same (h : cache.Sound) {call other : Call α ε}
    (hcall : call ∈ cache.calls) (hother : other ∈ cache.calls) :
    (afterPause call other).id = other.id ∧ (afterPause call other).key = other.key ∧
      (afterPause call other).cell = other.cell ∧
      (afterPause call other).work.result = other.work.result := by
  by_cases hid : other.id = call.id
  · rw [h.eq_of_id hother hcall hid, afterPause_self]
    exact ⟨rfl, rfl, rfl, rfl⟩
  · rw [afterPause_of_ne hid]
    exact ⟨rfl, rfl, rfl, rfl⟩

theorem filter_giveWay {call : Call α ε} {p : Call α ε → Bool}
    (hp : ∀ other ∈ cache.calls, p (afterPause call other) = p other) :
    (cache.giveWay call).calls.filter p = (cache.calls.filter p).map (afterPause call) := by
  rw [calls_giveWay, List.filter_map]
  exact congrArg _ (List.filter_congr hp)

theorem Sound.inFlight_giveWay (h : cache.Sound) {call : Call α ε} (hcall : call ∈ cache.calls)
    (key : String) :
    (cache.giveWay call).inFlight key = (cache.inFlight key).map (afterPause call) := by
  apply filter_giveWay
  intro other hother
  rw [(h.afterPause_same hcall hother).2.1]

theorem Sound.map_id_giveWay (h : cache.Sound) {call : Call α ε} (hcall : call ∈ cache.calls)
    {calls : List (Call α ε)} (hcalls : ∀ other ∈ calls, other ∈ cache.calls) :
    (calls.map (afterPause call)).map Call.id = calls.map Call.id := by
  rw [List.map_map]
  apply List.map_congr_left
  intro other hother
  exact (h.afterPause_same hcall (hcalls other hother)).1

theorem Sound.giveWay (h : cache.Sound) {call : Call α ε} (hcall : call ∈ cache.calls) :
    (cache.giveWay call).Sound where
  ids_nodup := by
    rw [calls_giveWay, h.map_id_giveWay hcall fun _ hother => hother]
    exact h.ids_nodup
  held := by
    intro later hlater
    rw [calls_giveWay] at hlater
    obtain ⟨other, hother, rfl⟩ := List.mem_map.mp hlater
    obtain ⟨-, hkey, hcell, -⟩ := h.afterPause_same hcall hother
    rw [hkey, hcell]
    exact h.held other hother
  own := h.own
  numbered := h.numbered
  unmade := h.unmade
  line := by
    intro n hvalue
    have hholding : (cache.giveWay call).holding n =
        (cache.holding n).map (afterPause call) := by
      apply filter_giveWay
      intro other hother
      rw [(h.afterPause_same hcall hother).2.2.1]
    rw [hholding, h.map_id_giveWay hcall fun _ hother => (mem_holding.mp hother).1]
    exact h.line n hvalue

theorem Attempt.sound {call : Call α ε} {next : Cache α ε} {answer : Option (Answer α ε)}
    (hattempt : cache.Attempt call next answer) (h : cache.Sound) (hcall : call ∈ cache.calls) :
    next.Sound := by
  cases hattempt with
  | served hvalue => exact h.leave_served hcall ((h.get?_eq hcall).symm.trans hvalue)
  | waits => exact h
  | yields => exact h.giveWay hcall
  | constructs => exact h.leave hcall (by simp)
  | fails hturn => exact h.afterFailure hcall hturn.1

theorem Sound.poll (h : cache.Sound) (id : Nat) : (cache.poll id).1.Sound := by
  cases hcall : cache.call? id with
  | none =>
      rw [poll_of_call?_eq_none hcall]
      exact h
  | some call => exact (h.attempt hcall).sound h (mem_of_call? hcall).1

theorem Sound.arrive (h : cache.Sound) {id : Nat} (hnew : ∀ call ∈ cache.calls, call.id ≠ id)
    (key : String) (work : Work α ε) : (cache.arrive id key work).1.Sound := by
  rw [arrive_eq_poll_join]
  exact (h.join hnew key work).poll id

theorem Sound.abandon (h : cache.Sound) (id : Nat) : (cache.abandon id).Sound := by
  unfold Cache.abandon
  split
  · exact h
  · next call hcall =>
      obtain ⟨hmem, rfl⟩ := mem_of_call? hcall
      exact h.leave_line hmem

theorem mem_calls_abandon {id : Nat} {later : Call α ε}
    (hlater : later ∈ (cache.abandon id).calls) : later ∈ cache.calls := by
  unfold abandon at hlater
  split at hlater
  · exact hlater
  · exact List.mem_of_mem_filter hlater

/-- The number under which an event lets a caller come, if it does. -/
def Event.comer? : Event α ε → Option Nat
  | .arrive id _ _ => some id
  | _ => none

/-- An event by which nobody comes under a number that is in use. -/
def Fresh (cache : Cache α ε) (event : Event α ε) : Prop :=
  ∀ id, event.comer? = some id → ∀ call ∈ cache.calls, call.id ≠ id

theorem Sound.step (h : cache.Sound) {event : Event α ε} (hfresh : cache.Fresh event) :
    (cache.step event).1.Sound := by
  cases event with
  | arrive id key work => exact h.arrive (hfresh id rfl) key work
  | poll id => exact h.poll id
  | abandon id => exact h.abandon id

/-! ### The turn is kept -/

theorem inFlight_of_calls_eq {next : Cache α ε} {id : Nat}
    (hcalls : next.calls = cache.calls.filter fun other => other.id != id) (key : String) :
    next.inFlight key = (cache.inFlight key).filter fun other => other.id != id := by
  rw [← inFlight_removeCall, inFlight, hcalls]
  rfl

/-- The turn is kept when another caller leaves. -/
theorem HasTurn.of_calls_eq {call : Call α ε} (hturn : cache.HasTurn call) {next : Cache α ε}
    {id : Nat} (hcalls : next.calls = cache.calls.filter fun other => other.id != id)
    (hid : call.id ≠ id) (hget : next.get? call.key = cache.get? call.key) :
    next.HasTurn call := by
  refine ⟨hget.trans hturn.1, ?_⟩
  obtain ⟨rest, hrest⟩ := List.head?_eq_some_iff.mp hturn.2
  rw [inFlight_of_calls_eq hcalls, hrest]
  simp [hid]

/-- A caller with the turn keeps it through the attempts of all callers, its own included,
until it has come to its end. -/
theorem Attempt.keeps_turn {call first : Call α ε} {next : Cache α ε}
    {answer : Option (Answer α ε)} (hattempt : cache.Attempt call next answer) (h : cache.Sound)
    (hcall : call ∈ cache.calls) (hturn : cache.HasTurn first)
    (hstay : ∃ later ∈ next.calls, later.id = first.id) :
    ∃ later, later.id = first.id ∧ later.key = first.key ∧ next.HasTurn later := by
  obtain ⟨later, hlater, hid⟩ := hstay
  have hleft : next.calls = cache.calls.filter (fun other => other.id != call.id) →
      first.id ≠ call.id := by
    intro hcalls heq
    rw [hcalls, List.mem_filter, hid, heq] at hlater
    simp at hlater
  cases hattempt with
  | served => exact ⟨first, rfl, rfl, hturn.of_calls_eq rfl (hleft rfl) rfl⟩
  | waits => exact ⟨first, rfl, rfl, hturn⟩
  | yields =>
      obtain ⟨hsame, hkey, -, -⟩ := h.afterPause_same hcall hturn.mem
      refine ⟨afterPause call first, hsame, hkey, ?_, ?_⟩
      · rw [hkey]
        exact hturn.1
      · rw [hkey, h.inFlight_giveWay hcall, List.head?_map, hturn.2]
        rfl
  | constructs hown =>
      have hne := hleft rfl
      have hkey : first.key ≠ call.key := by
        intro hkey
        exact hne (congrArg Call.id (hturn.eq hown hkey))
      exact ⟨first, rfl, rfl, hturn.of_calls_eq rfl hne (h.get?_fill_of_ne hcall _ hkey)⟩
  | fails hown =>
      have hcalls := h.calls_afterFailure hown
      exact ⟨first, rfl, rfl,
        hturn.of_calls_eq hcalls (hleft hcalls) (h.get?_afterFailure hown first.key)⟩

theorem Sound.keeps_turn_join (h : cache.Sound) {first : Call α ε} (hturn : cache.HasTurn first)
    (id : Nat) (key : String) (work : Work α ε) : (cache.join id key work).HasTurn first := by
  refine ⟨(h.get?_join id key work first.key).trans hturn.1, ?_⟩
  obtain ⟨rest, hrest⟩ := List.head?_eq_some_iff.mp hturn.2
  rw [inFlight, calls_join, List.filter_append]
  change (cache.inFlight first.key ++ _).head? = some first
  rw [hrest]
  rfl

theorem Sound.keeps_turn_poll (h : cache.Sound) {first : Call α ε} (hturn : cache.HasTurn first)
    {id : Nat} (hstay : ∃ later ∈ (cache.poll id).1.calls, later.id = first.id) :
    ∃ later, later.id = first.id ∧ later.key = first.key ∧ (cache.poll id).1.HasTurn later := by
  cases hcall : cache.call? id with
  | none =>
      rw [poll_of_call?_eq_none hcall]
      exact ⟨first, rfl, rfl, hturn⟩
  | some call => exact (h.attempt hcall).keeps_turn h (mem_of_call? hcall).1 hturn hstay

theorem HasTurn.keeps_turn_abandon {first : Call α ε} (hturn : cache.HasTurn first) {id : Nat}
    (hstay : ∃ later ∈ (cache.abandon id).calls, later.id = first.id) :
    (cache.abandon id).HasTurn first := by
  obtain ⟨later, hlater, hid⟩ := hstay
  unfold abandon at hlater ⊢
  split
  · exact hturn
  · next call hcall =>
      obtain ⟨-, rfl⟩ := mem_of_call? hcall
      rw [hcall] at hlater
      have hne : first.id ≠ call.id := by
        intro heq
        have hmem := (List.mem_filter.mp hlater).2
        simp [hid, heq] at hmem
      exact hturn.of_calls_eq rfl hne (get?_leave call call.id first.key)

/-- The cache in which whoever comes with an event has come, and nobody has been polled. -/
def letIn (cache : Cache α ε) : Event α ε → Cache α ε
  | .arrive id key work => cache.join id key work
  | _ => cache

theorem Sound.keeps_turn_letIn (h : cache.Sound) {first : Call α ε} (hturn : cache.HasTurn first)
    (event : Event α ε) : (cache.letIn event).HasTurn first := by
  cases event with
  | arrive id key work => exact h.keeps_turn_join hturn id key work
  | poll => exact hturn
  | abandon => exact hturn

/-- A caller with the turn keeps it through every event, until it is gone. -/
theorem Sound.keeps_turn (h : cache.Sound) {event : Event α ε} {first : Call α ε}
    (hfresh : cache.Fresh event) (hturn : (cache.letIn event).HasTurn first)
    (hstay : ∃ later ∈ (cache.step event).1.calls, later.id = first.id) :
    ∃ later, later.id = first.id ∧ later.key = first.key ∧
      (cache.step event).1.HasTurn later := by
  cases event with
  | arrive id key work => exact (h.join (hfresh id rfl) key work).keeps_turn_poll hturn hstay
  | poll id => exact h.keeps_turn_poll hturn hstay
  | abandon id =>
      have hkept : cache.HasTurn first := hturn
      exact ⟨first, rfl, rfl, hkept.keeps_turn_abandon hstay⟩

/-! ### Whose constructor runs -/

/-- How often a caller in flight is still going to give way. -/
def pausesLeft? (cache : Cache α ε) (id : Nat) : Option Nat :=
  (cache.call? id).map fun call => call.work.pauses

/-- The same before an event, with which the caller may only come. -/
def pausesBefore? (cache : Cache α ε) (id : Nat) : Event α ε → Option Nat
  | .arrive comer _ work => if comer = id then some work.pauses else cache.pausesLeft? id
  | _ => cache.pausesLeft? id

/-- The constructor of a caller runs in the course of an event: either it comes to its end,
or it gives way once more. -/
def Runs (cache : Cache α ε) (event : Event α ε) (id : Nat) : Prop :=
  (∃ result, (cache.step event).2 = some (id, ⟨result, true⟩)) ∨
    ∃ before left, cache.pausesBefore? id event = some before ∧
      (cache.step event).1.pausesLeft? id = some left ∧ left < before

/-- Nothing has run for a caller that comes out of an event as it went in. -/
theorem Sound.not_lt_of_pausesLeft? (h : cache.Sound) {later : Call α ε}
    (hlater : later ∈ cache.calls) {before : Nat}
    (hbefore : cache.pausesLeft? later.id = some before) : ¬ later.work.pauses < before := by
  rw [pausesLeft?, h.call?_eq_some_iff.mpr ⟨hlater, rfl⟩] at hbefore
  obtain rfl : later.work.pauses = before := Option.some.inj hbefore
  exact Nat.lt_irrefl _

theorem exists_of_pausesLeft? {id left : Nat} (hleft : cache.pausesLeft? id = some left) :
    ∃ later ∈ cache.calls, later.id = id ∧ later.work.pauses = left := by
  obtain ⟨later, hlater, hpauses⟩ := Option.map_eq_some_iff.mp hleft
  exact ⟨later, (mem_of_call? hlater).1, (mem_of_call? hlater).2, hpauses⟩

/-- Who gets work done in an attempt has the turn. -/
theorem Attempt.turn_of_runs {call : Call α ε} {next : Cache α ε} {answer : Option (Answer α ε)}
    (hattempt : cache.Attempt call next answer) (h : cache.Sound) (hcall : call ∈ cache.calls)
    {id : Nat}
    (hruns : (∃ result, answer.map (call.id, ·) = some (id, ⟨result, true⟩)) ∨
      ∃ before left, cache.pausesLeft? id = some before ∧ next.pausesLeft? id = some left ∧
        left < before) :
    ∃ first, first.id = id ∧ cache.HasTurn first := by
  rcases hruns with ⟨result, hanswer⟩ | ⟨before, left, hbefore, hleft, hlt⟩
  · cases hattempt with
    | served => simp at hanswer
    | waits => simp at hanswer
    | yields => simp at hanswer
    | constructs hturn => exact ⟨call, by simpa using congrArg (Option.map Prod.fst) hanswer, hturn⟩
    | fails hturn => exact ⟨call, by simpa using congrArg (Option.map Prod.fst) hanswer, hturn⟩
  · obtain ⟨later, hlater, rfl, rfl⟩ := exists_of_pausesLeft? hleft
    cases hattempt with
    | served =>
        have hold := List.mem_of_mem_filter hlater
        exact absurd hlt (h.not_lt_of_pausesLeft? hold hbefore)
    | waits => exact absurd hlt (h.not_lt_of_pausesLeft? hlater hbefore)
    | yields hturn =>
        rw [calls_giveWay] at hlater
        obtain ⟨other, hother, heq⟩ := List.mem_map.mp hlater
        by_cases hsame : other.id = call.id
        · have hid := (h.afterPause_same hcall hother).1
          exact ⟨call, by rw [← heq, hid, hsame], hturn⟩
        · rw [afterPause_of_ne hsame] at heq
          subst heq
          exact absurd hlt (h.not_lt_of_pausesLeft? hother hbefore)
    | constructs =>
        have hold := List.mem_of_mem_filter hlater
        exact absurd hlt (h.not_lt_of_pausesLeft? hold hbefore)
    | fails hturn =>
        rw [h.calls_afterFailure hturn] at hlater
        have hold := List.mem_of_mem_filter hlater
        exact absurd hlt (h.not_lt_of_pausesLeft? hold hbefore)

theorem pausesBefore?_arrive {comer : Nat}
    (hnew : ∀ call ∈ cache.calls, call.id ≠ comer) (key : String) (work : Work α ε) (id : Nat) :
    cache.pausesBefore? id (.arrive comer key work) =
      (cache.join comer key work).pausesLeft? id := by
  have hsplit : (cache.join comer key work).call? id = (cache.call? id).or
      (if comer = id then some ⟨comer, key, (cache.cellOf key).1, work⟩ else none) := by
    rw [call?, calls_join, List.find?_append, List.find?_singleton]
    simp [call?]
  rw [pausesBefore?, pausesLeft?, pausesLeft?, hsplit]
  by_cases hcomer : comer = id
  · subst hcomer
    rw [call?_eq_none_iff.mpr hnew]
    simp
  · simp [hcomer]

/-- A caller whose constructor runs has the turn. -/
theorem Sound.turn_of_runs (h : cache.Sound) {event : Event α ε} (hfresh : cache.Fresh event)
    {id : Nat} (hruns : cache.Runs event id) :
    ∃ first, first.id = id ∧ (cache.letIn event).HasTurn first := by
  cases event with
  | arrive comer key work =>
      have hsound := h.join (hfresh comer rfl) key work
      obtain ⟨call, hcall⟩ : ∃ call, (cache.join comer key work).call? comer = some call :=
        ⟨⟨comer, key, (cache.cellOf key).1, work⟩,
          hsound.call?_eq_some_iff.mpr ⟨mem_calls_join.mpr (Or.inr rfl), rfl⟩⟩
      obtain ⟨hmem, rfl⟩ := mem_of_call? hcall
      rw [Runs, pausesBefore?_arrive (hfresh _ rfl) key work id] at hruns
      exact (hsound.attempt hcall).turn_of_runs hsound hmem hruns
  | poll other =>
      cases hcall : cache.call? other with
      | none =>
          rcases hruns with ⟨result, hanswer⟩ | ⟨before, left, hbefore, hleft, hlt⟩
          · simp [Cache.step, poll_of_call?_eq_none hcall] at hanswer
          · rw [Cache.step, poll_of_call?_eq_none hcall] at hleft
            have heq : some left = some before := hleft.symm.trans hbefore
            rw [Option.some.inj heq] at hlt
            exact absurd hlt (Nat.lt_irrefl _)
      | some call =>
          obtain ⟨hmem, rfl⟩ := mem_of_call? hcall
          exact (h.attempt hcall).turn_of_runs h hmem hruns
  | abandon other =>
      rcases hruns with ⟨result, hanswer⟩ | ⟨before, left, hbefore, hleft, hlt⟩
      · simp [Cache.step] at hanswer
      · obtain ⟨later, hlater, rfl, rfl⟩ := exists_of_pausesLeft? hleft
        exact absurd hlt (h.not_lt_of_pausesLeft? (mem_calls_abandon hlater) hbefore)

/-! ### Who is in flight, and who is answered -/

/-- Nobody is in flight after an attempt who was not before. -/
theorem Attempt.came {call : Call α ε} {next : Cache α ε} {answer : Option (Answer α ε)}
    (hattempt : cache.Attempt call next answer) (h : cache.Sound) (hcall : call ∈ cache.calls)
    {later : Call α ε} (hlater : later ∈ next.calls) :
    ∃ other ∈ cache.calls, other.id = later.id ∧ other.key = later.key ∧
      other.work.result = later.work.result := by
  cases hattempt with
  | served => exact ⟨later, List.mem_of_mem_filter hlater, rfl, rfl, rfl⟩
  | waits => exact ⟨later, hlater, rfl, rfl, rfl⟩
  | yields =>
      rw [calls_giveWay] at hlater
      obtain ⟨other, hother, rfl⟩ := List.mem_map.mp hlater
      obtain ⟨hid, hkey, -, hresult⟩ := h.afterPause_same hcall hother
      exact ⟨other, hother, hid.symm, hkey.symm, hresult.symm⟩
  | constructs => exact ⟨later, List.mem_of_mem_filter hlater, rfl, rfl, rfl⟩
  | fails hturn =>
      rw [h.calls_afterFailure hturn] at hlater
      exact ⟨later, List.mem_of_mem_filter hlater, rfl, rfl, rfl⟩

theorem Sound.came_poll (h : cache.Sound) {id : Nat} {later : Call α ε}
    (hlater : later ∈ (cache.poll id).1.calls) :
    ∃ other ∈ cache.calls, other.id = later.id ∧ other.key = later.key ∧
      other.work.result = later.work.result := by
  cases hcall : cache.call? id with
  | none =>
      rw [poll_of_call?_eq_none hcall] at hlater
      exact ⟨later, hlater, rfl, rfl, rfl⟩
  | some call => exact (h.attempt hcall).came h (mem_of_call? hcall).1 hlater

theorem mem_calls_letIn {event : Event α ε} {later : Call α ε}
    (hlater : later ∈ (cache.letIn event).calls) :
    later ∈ cache.calls ∨ event = .arrive later.id later.key later.work := by
  cases event with
  | arrive id key work =>
      rcases mem_calls_join.mp hlater with hlater | rfl
      · exact Or.inl hlater
      · exact Or.inr rfl
  | poll => exact Or.inl hlater
  | abandon => exact Or.inl hlater

/-- Whoever is in flight after an event was so before, or came with it. -/
theorem Sound.came (h : cache.Sound) {event : Event α ε} (hfresh : cache.Fresh event)
    {later : Call α ε} (hlater : later ∈ (cache.step event).1.calls) :
    ∃ other ∈ (cache.letIn event).calls, other.id = later.id ∧ other.key = later.key ∧
      other.work.result = later.work.result := by
  cases event with
  | arrive id key work => exact (h.join (hfresh id rfl) key work).came_poll hlater
  | poll id => exact h.came_poll hlater
  | abandon id => exact ⟨later, mem_calls_abandon hlater, rfl, rfl, rfl⟩

/-- Whoever is answered is gone; its constructor has run if it had the turn, and has ended as the
answer says if it has run. -/
structure Parts (cache next : Cache α ε) (id : Nat) (answer : Answer α ε) : Prop where
  present : ∃ call ∈ cache.calls, call.id = id
  gone : ∀ later ∈ next.calls, later.id ≠ id
  ran : ∀ first, cache.HasTurn first → first.id = id → answer.ran = true
  own : answer.ran = true → ∀ call ∈ cache.calls, call.id = id → call.work.result = answer.result

theorem Attempt.parts {call : Call α ε} {next : Cache α ε} {answer : Answer α ε}
    (hattempt : cache.Attempt call next (some answer)) (h : cache.Sound)
    (hcall : call ∈ cache.calls) : cache.Parts next call.id answer := by
  have hgone : next.calls = cache.calls.filter (fun other => other.id != call.id) →
      ∀ later ∈ next.calls, later.id ≠ call.id := by
    intro hcalls later hlater
    rw [hcalls, List.mem_filter] at hlater
    simpa using hlater.2
  have hown : ∀ other ∈ cache.calls, other.id = call.id → other.work.result = call.work.result := by
    intro other hother hid
    rw [h.eq_of_id hother hcall hid]
  cases hattempt with
  | served hvalue =>
      refine ⟨⟨call, hcall, rfl⟩, hgone rfl, ?_, fun hran => absurd hran Bool.false_ne_true⟩
      intro first hturn hid
      rw [h.eq_of_id hturn.mem hcall hid] at hturn
      rw [hturn.1] at hvalue
      exact absurd hvalue (by simp)
  | constructs _ hresult =>
      exact ⟨⟨call, hcall, rfl⟩, hgone rfl, fun _ _ _ => rfl, fun _ => hresult ▸ hown⟩
  | fails hturn hresult =>
      exact ⟨⟨call, hcall, rfl⟩, hgone (h.calls_afterFailure hturn), fun _ _ _ => rfl,
        fun _ => hresult ▸ hown⟩

theorem Sound.parts_poll (h : cache.Sound) {id : Nat} {answer : Answer α ε}
    (hanswer : (cache.poll id).2 = some answer) : cache.Parts (cache.poll id).1 id answer := by
  cases hcall : cache.call? id with
  | none =>
      rw [poll_of_call?_eq_none hcall] at hanswer
      exact absurd hanswer (by simp)
  | some call =>
      obtain ⟨hmem, rfl⟩ := mem_of_call? hcall
      have hattempt := h.attempt hcall
      rw [hanswer] at hattempt
      exact hattempt.parts h hmem

theorem Sound.parts (h : cache.Sound) {event : Event α ε} (hfresh : cache.Fresh event) {id : Nat}
    {answer : Answer α ε} (hanswer : (cache.step event).2 = some (id, answer)) :
    (cache.letIn event).Parts (cache.step event).1 id answer := by
  cases event with
  | arrive comer key work =>
      obtain ⟨given, hgiven, heq⟩ := Option.map_eq_some_iff.mp hanswer
      obtain ⟨rfl, rfl⟩ := Prod.mk.inj heq
      exact (h.join (hfresh comer rfl) key work).parts_poll hgiven
  | poll other =>
      obtain ⟨given, hgiven, heq⟩ := Option.map_eq_some_iff.mp hanswer
      obtain ⟨rfl, rfl⟩ := Prod.mk.inj heq
      exact h.parts_poll hgiven
  | abandon => exact absurd hanswer (by simp [Cache.step])

end Cache

end Signpost
