import Mathlib.Data.List.Nodup
import Signpost.Cache
import Signpost.Fields

/-!
Who holds which cell.  The slot of a key may be released while a cell lives on
with its holders, and be made anew with another cell; what keeps the callers of
one key together is that each of them, as long as it is in flight, holds the cell
that its key has now.
-/

namespace Signpost

namespace Cache

variable {α ε : Type} {cache : Cache α ε}

/-- The callers in flight that hold a cell, in the order in which they came. -/
def holding (cache : Cache α ε) (n : Nat) : List (Call α ε) :=
  cache.calls.filter fun call => call.cell == n

/-- The callers of a key in flight, in the order in which they came. -/
def inFlight (cache : Cache α ε) (key : String) : List (Call α ε) :=
  cache.calls.filter fun call => call.key == key

/-- What holds of a cache at every moment of every run. -/
structure Sound (cache : Cache α ε) : Prop where
  ids_nodup : (cache.calls.map Call.id).Nodup
  /-- Every caller in flight holds the cell that its key has now. -/
  held : ∀ call ∈ cache.calls, cache.slots.lookup call.key = some call.cell
  /-- No two keys have one cell. -/
  own : ∀ key other n, cache.slots.lookup key = some n →
    cache.slots.lookup other = some n → key = other
  numbered : ∀ key n, cache.slots.lookup key = some n → n < cache.nextCell
  unmade : ∀ n, cache.nextCell ≤ n → (cache.cells n).value = none
  /-- All holders of a cell without a value stand in line at it, and nobody else. -/
  line : ∀ n, (cache.cells n).value = none →
    (cache.cells n).line = (cache.holding n).map Call.id

theorem sound_empty (partition : String) : (empty partition : Cache α ε).Sound where
  ids_nodup := List.nodup_nil
  held := by simp [empty]
  own := by simp [empty]
  numbered := by simp [empty]
  unmade := by simp [empty]
  line := by simp [empty, holding]

@[simp]
theorem mem_holding {n : Nat} {call : Call α ε} :
    call ∈ cache.holding n ↔ call ∈ cache.calls ∧ call.cell = n := by
  simp [holding]

@[simp]
theorem mem_inFlight {key : String} {call : Call α ε} :
    call ∈ cache.inFlight key ↔ call ∈ cache.calls ∧ call.key = key := by
  simp [inFlight]

@[simp]
theorem cells_setCell_self (n : Nat) (cell : Cell α) : (cache.setCell n cell).cells n = cell := by
  simp [setCell]

theorem cells_setCell_of_ne {n m : Nat} (h : m ≠ n) (cell : Cell α) :
    (cache.setCell n cell).cells m = cache.cells m := by
  simp [setCell, h]

@[simp]
theorem setCell_cells (n : Nat) : cache.setCell n (cache.cells n) = cache := by
  have hcells : (fun m => if m = n then cache.cells n else cache.cells m) = cache.cells := by
    funext m
    by_cases hm : m = n <;> simp [hm]
  rw [setCell, hcells]

/-! ### Callers by number -/

theorem Sound.eq_of_id (h : cache.Sound) {first second : Call α ε}
    (hfirst : first ∈ cache.calls) (hsecond : second ∈ cache.calls)
    (hid : first.id = second.id) : first = second :=
  List.inj_on_of_nodup_map h.ids_nodup hfirst hsecond hid

theorem mem_of_call? {id : Nat} {call : Call α ε} (h : cache.call? id = some call) :
    call ∈ cache.calls ∧ call.id = id := by
  refine ⟨List.mem_of_find?_eq_some h, ?_⟩
  simpa using List.find?_some h

theorem Sound.call?_eq_some_iff (h : cache.Sound) {id : Nat} {call : Call α ε} :
    cache.call? id = some call ↔ call ∈ cache.calls ∧ call.id = id := by
  refine ⟨mem_of_call?, ?_⟩
  rintro ⟨hmem, rfl⟩
  cases hfound : cache.call? call.id with
  | none =>
      have hnone := List.find?_eq_none.mp hfound call hmem
      simp at hnone
  | some other =>
      obtain ⟨hother, hid⟩ := mem_of_call? hfound
      rw [h.eq_of_id hother hmem hid]

theorem call?_eq_none_iff {id : Nat} :
    cache.call? id = none ↔ ∀ call ∈ cache.calls, call.id ≠ id := by
  simp [call?, List.find?_eq_none]

/-! ### Cells by key -/

theorem Sound.get?_eq (h : cache.Sound) {call : Call α ε} (hcall : call ∈ cache.calls) :
    cache.get? call.key = (cache.cells call.cell).value := by
  simp [get?, h.held call hcall]

/-- The callers of a key in flight are the holders of its cell. -/
theorem Sound.holding_eq_inFlight (h : cache.Sound) {call : Call α ε}
    (hcall : call ∈ cache.calls) : cache.holding call.cell = cache.inFlight call.key := by
  apply List.filter_congr
  intro other hother
  have hheld := h.held other hother
  rw [Bool.eq_iff_iff, beq_iff_eq, beq_iff_eq]
  constructor
  · intro hcell
    exact h.own _ _ _ hheld (hcell ▸ h.held call hcall)
  · intro hkey
    rw [hkey, h.held call hcall] at hheld
    exact (Option.some.inj hheld).symm

/-! ### A caller leaves -/

theorem holding_removeCall (n id : Nat) :
    (cache.removeCall id).holding n = (cache.holding n).filter fun call => call.id != id := by
  simp [holding, removeCall, List.filter_filter, Bool.and_comm]

theorem Sound.holding_removeCall_of_ne (h : cache.Sound) {call : Call α ε}
    (hcall : call ∈ cache.calls) {n : Nat} (hn : n ≠ call.cell) :
    (cache.removeCall call.id).holding n = cache.holding n := by
  rw [holding_removeCall, List.filter_eq_self]
  intro other hother
  obtain ⟨hmem, hcell⟩ := mem_holding.mp hother
  have hid : other.id ≠ call.id := by
    intro hid
    rw [h.eq_of_id hmem hcall hid] at hcell
    exact hn hcell.symm
  simpa using hid

theorem map_id_filter_ne (id : Nat) (calls : List (Call α ε)) :
    (calls.filter fun call => call.id != id).map Call.id =
      (calls.map Call.id).filter (· != id) := by
  rw [List.filter_map]
  rfl

/-- A caller leaves, and what it does to its cell is fill it or quit the line there. -/
theorem Sound.leave (h : cache.Sound) {call : Call α ε} (hcall : call ∈ cache.calls)
    {cell : Cell α}
    (hcell : cell.value = none → (cache.cells call.cell).value = none ∧
      cell.line = (cache.cells call.cell).line.filter (· != call.id)) :
    ((cache.setCell call.cell cell).removeCall call.id).Sound where
  ids_nodup := by
    rw [removeCall, map_id_filter_ne]
    exact h.ids_nodup.filter _
  held := by
    intro other hother
    exact h.held other (List.mem_of_mem_filter hother)
  own := h.own
  numbered := h.numbered
  unmade := by
    intro n hn
    have hlt : call.cell < cache.nextCell := h.numbered call.key _ (h.held call hcall)
    have hne : n ≠ call.cell := by
      rintro rfl
      exact Nat.not_le_of_lt hlt hn
    change ((cache.setCell call.cell cell).cells n).value = none
    rw [cells_setCell_of_ne hne]
    exact h.unmade n hn
  line := by
    intro n hvalue
    change ((cache.setCell call.cell cell).cells n).value = none at hvalue
    change ((cache.setCell call.cell cell).cells n).line =
      ((cache.removeCall call.id).holding n).map Call.id
    by_cases hn : n = call.cell
    · subst hn
      rw [cells_setCell_self] at hvalue ⊢
      obtain ⟨hopen, hline⟩ := hcell hvalue
      rw [hline, h.line _ hopen, holding_removeCall, map_id_filter_ne]
    · rw [cells_setCell_of_ne hn] at hvalue ⊢
      rw [h.line n hvalue, h.holding_removeCall_of_ne hcall hn]

/-- A caller leaves that has found the value there. -/
theorem Sound.leave_served (h : cache.Sound) {call : Call α ε} (hcall : call ∈ cache.calls)
    {v : α} (hvalue : (cache.cells call.cell).value = some v) :
    (cache.removeCall call.id).Sound := by
  have hleft : ((cache.setCell call.cell (cache.cells call.cell)).removeCall call.id).Sound :=
    h.leave hcall (by simp [hvalue])
  rwa [setCell_cells] at hleft

/-- A caller leaves the line and is gone. -/
theorem Sound.leave_line (h : cache.Sound) {call : Call α ε} (hcall : call ∈ cache.calls) :
    ((cache.leaveLine call).removeCall call.id).Sound :=
  h.leave hcall fun hvalue => ⟨hvalue, rfl⟩

/-! ### A slot is released -/

/-- The cache without the slot of a key. -/
def dropSlot (cache : Cache α ε) (key : String) : Cache α ε :=
  { cache with slots := cache.slots.filter fun slot => slot.1 != key }

theorem lookup_dropSlot {key other : String} {n : Nat}
    (h : (cache.dropSlot key).slots.lookup other = some n) :
    other ≠ key ∧ cache.slots.lookup other = some n := by
  have hne : other ≠ key := by
    rintro rfl
    rw [dropSlot, lookup_filter_self] at h
    exact absurd h (by simp)
  rw [dropSlot, lookup_filter_ne hne] at h
  exact ⟨hne, h⟩

theorem Sound.dropSlot (h : cache.Sound) {key : String} (hkey : cache.inFlight key = []) :
    (cache.dropSlot key).Sound where
  ids_nodup := h.ids_nodup
  held := by
    intro call hcall
    have hne : call.key ≠ key := by
      intro heq
      have hmem : call ∈ cache.inFlight key := mem_inFlight.mpr ⟨hcall, heq⟩
      rw [hkey] at hmem
      exact List.not_mem_nil hmem
    rw [Cache.dropSlot, lookup_filter_ne hne]
    exact h.held call hcall
  own := by
    intro first second n hfirst hsecond
    exact h.own first second n (lookup_dropSlot hfirst).2 (lookup_dropSlot hsecond).2
  numbered := by
    intro other n hother
    exact h.numbered other n (lookup_dropSlot hother).2
  unmade := h.unmade
  line := h.line

theorem inFlight_removeCall (key : String) (id : Nat) :
    (cache.removeCall id).inFlight key =
      (cache.inFlight key).filter fun call => call.id != id := by
  simp [inFlight, removeCall, List.filter_filter, Bool.and_comm]

/-- The cache after a caller has failed: it leaves the line, and if it was the only one of
its key in flight the slot goes with it. -/
def afterFailure (cache : Cache α ε) (call : Call α ε) : Cache α ε :=
  ((cache.leaveLine call).releaseSlot call.key).removeCall call.id

theorem Sound.afterFailure_eq (h : cache.Sound) {call : Call α ε} (hcall : call ∈ cache.calls)
    (hvalue : cache.get? call.key = none) :
    cache.afterFailure call =
      if (cache.inFlight call.key).length = 1 then
        ((cache.leaveLine call).removeCall call.id).dropSlot call.key
      else (cache.leaveLine call).removeCall call.id := by
  have hslot : (cache.leaveLine call).slots.lookup call.key = some call.cell := h.held call hcall
  have hopen : ((cache.leaveLine call).cells call.cell).value = none := by
    rw [h.get?_eq hcall] at hvalue
    simpa [leaveLine] using hvalue
  have hholders : (cache.leaveLine call).holders call.cell = (cache.inFlight call.key).length := by
    rw [← h.holding_eq_inFlight hcall]
    rfl
  rw [afterFailure, releaseSlot, hslot]
  by_cases honly : (cache.inFlight call.key).length = 1
  · simp [hopen, hholders, honly, Cache.dropSlot, removeCall]
  · simp [hopen, hholders, honly]

theorem Sound.afterFailure (h : cache.Sound) {call : Call α ε} (hcall : call ∈ cache.calls)
    (hvalue : cache.get? call.key = none) : (cache.afterFailure call).Sound := by
  rw [h.afterFailure_eq hcall hvalue]
  have hleft := h.leave_line hcall
  split
  · next honly =>
      apply hleft.dropSlot
      obtain ⟨other, hother⟩ := List.length_eq_one_iff.mp honly
      have hmem : call ∈ cache.inFlight call.key := mem_inFlight.mpr ⟨hcall, rfl⟩
      rw [hother, List.mem_singleton] at hmem
      change ((cache.removeCall call.id).inFlight call.key) = []
      rw [inFlight_removeCall, hother, ← hmem]
      simp
  · exact hleft

/-! ### A caller comes -/

/-- The cache with a caller that takes hold of cell `n`, and lines up there unless the value
is there already. -/
def enter (cache : Cache α ε) (call : Call α ε) : Cache α ε :=
  let cell := cache.cells call.cell
  let lined :=
    if cell.value.isSome then cache
    else cache.setCell call.cell { cell with line := cell.line ++ [call.id] }
  { lined with calls := lined.calls ++ [call] }

/-- The cache in which a caller has arrived and not been polled yet. -/
def join (cache : Cache α ε) (id : Nat) (key : String) (work : Work α ε) : Cache α ε :=
  (cache.cellOf key).2.enter ⟨id, key, (cache.cellOf key).1, work⟩

theorem arrive_eq_poll_join (id : Nat) (key : String) (work : Work α ε) :
    cache.arrive id key work = (cache.join id key work).poll id := rfl

/-- The cache with a slot for a key, in which is a cell that nobody has held yet. -/
def addSlot (cache : Cache α ε) (key : String) : Cache α ε :=
  { cache with slots := cache.slots ++ [(key, cache.nextCell)]
               nextCell := cache.nextCell + 1 }

theorem lookup_addSlot {key other : String} {n : Nat}
    (h : (cache.addSlot key).slots.lookup other = some n) :
    cache.slots.lookup other = some n ∨ other = key ∧ n = cache.nextCell := by
  rw [addSlot, List.lookup_append] at h
  cases hold : cache.slots.lookup other with
  | some m =>
      rw [hold] at h
      exact Or.inl h
  | none =>
      rw [hold] at h
      by_cases hother : other = key
      · subst hother
        exact Or.inr ⟨rfl, by simpa using h.symm⟩
      · simp [List.lookup_cons, beq_false_of_ne hother] at h

theorem lookup_addSlot_of_some {key other : String} {n : Nat}
    (h : cache.slots.lookup other = some n) :
    (cache.addSlot key).slots.lookup other = some n := by
  simp [addSlot, List.lookup_append, h]

theorem lookup_addSlot_self {key : String} (h : cache.slots.lookup key = none) :
    (cache.addSlot key).slots.lookup key = some cache.nextCell := by
  simp [addSlot, List.lookup_append, h]

theorem Sound.addSlot (h : cache.Sound) (key : String) : (cache.addSlot key).Sound where
  ids_nodup := h.ids_nodup
  held := by
    intro call hcall
    exact lookup_addSlot_of_some (h.held call hcall)
  own := by
    intro first second n hfirst hsecond
    rcases lookup_addSlot hfirst with hfirst | ⟨hfirst, hn⟩
    · rcases lookup_addSlot hsecond with hsecond | ⟨-, rfl⟩
      · exact h.own first second n hfirst hsecond
      · exact absurd (h.numbered first _ hfirst) (Nat.lt_irrefl _)
    · rcases lookup_addSlot hsecond with hsecond | ⟨hsecond, -⟩
      · subst hn
        exact absurd (h.numbered second _ hsecond) (Nat.lt_irrefl _)
      · rw [hfirst, hsecond]
  numbered := by
    intro other n hother
    rcases lookup_addSlot hother with hold | ⟨-, rfl⟩
    · exact Nat.lt_succ_of_lt (h.numbered other n hold)
    · exact Nat.lt_succ_self _
  unmade := by
    intro n hn
    exact h.unmade n (Nat.le_of_succ_le hn)
  line := h.line

/-- Whatever cell a key had or now gets, a sound cache has it under the key. -/
theorem Sound.cellOf (h : cache.Sound) (key : String) :
    (cache.cellOf key).2.Sound ∧
      (cache.cellOf key).2.slots.lookup key = some (cache.cellOf key).1 := by
  unfold Cache.cellOf
  split
  · next n hn => exact ⟨h, hn⟩
  · next hnone => exact ⟨h.addSlot key, lookup_addSlot_self hnone⟩

theorem calls_cellOf (key : String) : (cache.cellOf key).2.calls = cache.calls := by
  unfold cellOf
  split <;> rfl

theorem Sound.get?_addSlot (h : cache.Sound) {key : String}
    (hkey : cache.slots.lookup key = none) (other : String) :
    (cache.addSlot key).get? other = cache.get? other := by
  unfold get?
  cases hnew : (cache.addSlot key).slots.lookup other with
  | none =>
      cases hold : cache.slots.lookup other with
      | none => rfl
      | some n =>
          rw [lookup_addSlot_of_some hold] at hnew
          exact absurd hnew (by simp)
  | some n =>
      rcases lookup_addSlot hnew with hold | ⟨rfl, rfl⟩
      · rw [hold]
        rfl
      · rw [hkey]
        exact h.unmade cache.nextCell (Nat.le_refl _)

theorem Sound.get?_cellOf (h : cache.Sound) (key other : String) :
    (cache.cellOf key).2.get? other = cache.get? other := by
  unfold Cache.cellOf
  split
  · rfl
  · next hnone => exact h.get?_addSlot hnone other

theorem calls_enter (call : Call α ε) : (cache.enter call).calls = cache.calls ++ [call] := by
  unfold enter
  dsimp only
  split <;> rfl

theorem slots_enter (call : Call α ε) : (cache.enter call).slots = cache.slots := by
  unfold enter
  dsimp only
  split <;> rfl

theorem value_enter (call : Call α ε) (n : Nat) :
    ((cache.enter call).cells n).value = (cache.cells n).value := by
  unfold enter
  dsimp only
  split
  · rfl
  · by_cases hn : n = call.cell <;> simp [setCell, hn]

theorem Sound.enter (h : cache.Sound) {call : Call α ε}
    (hslot : cache.slots.lookup call.key = some call.cell)
    (hnew : ∀ other ∈ cache.calls, other.id ≠ call.id) : (cache.enter call).Sound where
  ids_nodup := by
    rw [calls_enter, List.map_append, List.nodup_append]
    refine ⟨h.ids_nodup, by simp, ?_⟩
    simpa using hnew
  held := by
    intro other hother
    rw [calls_enter, List.mem_append, List.mem_singleton] at hother
    rw [slots_enter]
    rcases hother with hold | rfl
    · exact h.held other hold
    · exact hslot
  own := by
    rw [slots_enter]
    exact h.own
  numbered := by
    rw [slots_enter]
    unfold Cache.enter
    dsimp only
    split <;> exact h.numbered
  unmade := by
    intro n hn
    rw [value_enter]
    apply h.unmade
    unfold Cache.enter at hn
    dsimp only at hn
    split at hn <;> exact hn
  line := by
    intro n hvalue
    rw [value_enter] at hvalue
    rw [holding, calls_enter, List.filter_append]
    change _ = List.map Call.id (cache.holding n ++ _)
    rw [List.map_append, ← h.line n hvalue]
    unfold Cache.enter
    dsimp only
    by_cases hn : n = call.cell
    · subst hn
      simp [hvalue]
    · have hcell : (call.cell == n) = false := beq_false_of_ne (Ne.symm hn)
      split
      · simp [hcell]
      · simp [cells_setCell_of_ne hn, hcell]

theorem calls_join (id : Nat) (key : String) (work : Work α ε) :
    (cache.join id key work).calls = cache.calls ++ [⟨id, key, (cache.cellOf key).1, work⟩] := by
  rw [join, calls_enter, calls_cellOf]

theorem mem_calls_join {id : Nat} {key : String} {work : Work α ε} {call : Call α ε} :
    call ∈ (cache.join id key work).calls ↔
      call ∈ cache.calls ∨ call = ⟨id, key, (cache.cellOf key).1, work⟩ := by
  rw [calls_join, List.mem_append, List.mem_singleton]

theorem Sound.get?_join (h : cache.Sound) (id : Nat) (key : String) (work : Work α ε)
    (other : String) : (cache.join id key work).get? other = cache.get? other := by
  rw [← h.get?_cellOf key other, join, get?, slots_enter]
  simp only [value_enter]
  rfl

theorem Sound.join (h : cache.Sound) {id : Nat} (hnew : ∀ call ∈ cache.calls, call.id ≠ id)
    (key : String) (work : Work α ε) : (cache.join id key work).Sound := by
  obtain ⟨hsound, hslot⟩ := h.cellOf key
  apply hsound.enter hslot
  rw [calls_cellOf]
  exact hnew

end Cache

end Signpost
