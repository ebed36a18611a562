import Mathlib.Data.List.Induction
import Signpost.Proofs.Cache.Runs
import Signpost.Proofs.Cache.Values

/-!
A cache shows what has been constructed, and nothing else.  At every moment of every run the
value of a key is the one that the constructor of one of its callers has ended with; it is
there from then on, and counted once.
-/

namespace Signpost

namespace Cache

variable {α ε : Type} {cache : Cache α ε} {partition : String} {events : List (Event α ε)}

/-! ### One more event -/

theorem after_concat (event : Event α ε) :
    after partition (events ++ [event]) = ((after partition events).step event).1 := by
  rw [after_append, run_cons]
  rfl

theorem answers_concat (event : Event α ε) :
    ((empty partition).run (events ++ [event])).2 =
      ((empty partition).run events).2 ++ ((after partition events).step event).2.toList := by
  rw [run_append, run_cons]
  simp [after, run]

/-- Whoever has been answered has come. -/
theorem mem_arrivals_of_answer (hdistinct : Distinct [] events) {id : Nat} {answer : Answer α ε}
    (hanswer : (id, answer) ∈ ((empty partition).run events).2) : id ∈ arrivals events := by
  obtain ⟨before, event, rest, rfl, hstep⟩ := exists_of_mem_run hanswer
  have hparts := (sound_after partition hdistinct.front).parts
    (fresh_after partition hdistinct) hstep
  obtain ⟨call, hcall, rfl⟩ := hparts.present
  obtain ⟨pauses, hcame⟩ := arrival_of_mem_letIn hdistinct hcall
  rw [List.append_cons]
  exact mem_arrivals (List.mem_append_left _ hcame) rfl

/-! ### Values and constructors -/

/-- A caller has come for a key, and its constructor has ended with a value. -/
def Constructed (partition : String) (events : List (Event α ε)) (key : String) (v : α) : Prop :=
  ∃ id pauses, .arrive id key ⟨pauses, .ok v⟩ ∈ events ∧
    (id, ⟨.ok v, true⟩) ∈ ((empty partition).run events).2

theorem Constructed.mono {before : List (Event α ε)} {key : String} {v : α}
    (h : Constructed partition before key v) (rest : List (Event α ε)) :
    Constructed partition (before ++ rest) key v := by
  obtain ⟨id, pauses, hcame, hanswer⟩ := h
  refine ⟨id, pauses, List.mem_append_left _ hcame, ?_⟩
  rw [run_append]
  exact List.mem_append_left _ hanswer

/-- What has been constructed after an event was so before, or its constructor ends with it. -/
theorem constructed_concat_iff {event : Event α ε} (hdistinct : Distinct [] (events ++ [event]))
    {key : String} {v : α} :
    Constructed partition (events ++ [event]) key v ↔
      Constructed partition events key v ∨
        ∃ call ∈ ((after partition events).letIn event).calls, call.key = key ∧
          ((after partition events).step event).2 = some (call.id, ⟨.ok v, true⟩) := by
  constructor
  · rintro ⟨id, pauses, hcame, hanswer⟩
    rw [answers_concat, List.mem_append, Option.mem_toList] at hanswer
    rcases hanswer with hold | hnew
    · -- the caller had come by then, so it is not the one that comes with this event
      have hknown := mem_arrivals_of_answer hdistinct.front hold
      rcases List.mem_append.mp hcame with hcame | hlast
      · exact Or.inl ⟨id, pauses, hcame, hold⟩
      · exact absurd (mem_arrivals hlast rfl) (not_mem_arrivals_of_came hdistinct hknown)
    · have hparts := (sound_after partition hdistinct.front).parts
        (fresh_after partition hdistinct) hnew
      obtain ⟨call, hcall, rfl⟩ := hparts.present
      exact Or.inr ⟨call, hcall, key_eq_of_turn hdistinct hcall hcame, hnew⟩
  · rintro (hold | ⟨call, hcall, rfl, hanswer⟩)
    · exact hold.mono [event]
    · have hparts := (sound_after partition hdistinct.front).parts
        (fresh_after partition hdistinct) hanswer
      obtain ⟨pauses, hcame⟩ := arrival_of_mem_letIn hdistinct hcall
      rw [hparts.own rfl call hcall rfl] at hcame
      refine ⟨call.id, pauses, hcame, ?_⟩
      rw [answers_concat, hanswer]
      exact List.mem_append_right _ List.mem_cons_self

/-- The value of a key is the one that has been constructed for it: by induction on the run, each
event adding the same to both. -/
theorem get?_after_eq_some_iff (hdistinct : Distinct [] events) {key : String} {v : α} :
    (after partition events).get? key = some v ↔ Constructed partition events key v := by
  induction events using List.reverseRecOn with
  | nil => simp [after, Cache.run, Constructed, get?, empty]
  | append_singleton before event ih =>
      rw [after_concat, constructed_concat_iff hdistinct, ← ih hdistinct.front]
      exact (sound_after partition hdistinct.front).get?_step_eq_some_iff
        (fresh_after partition hdistinct)

/-! ### Counting -/

/-- No key has two slots. -/
def OneSlotEach (cache : Cache α ε) : Prop := (cache.slots.map Prod.fst).Nodup

theorem OneSlotEach.sublist {next : Cache α ε} (h : cache.OneSlotEach)
    (hslots : next.slots.Sublist cache.slots) : next.OneSlotEach :=
  List.Nodup.sublist (hslots.map Prod.fst) h

theorem slots_releaseSlot_sublist (key : String) :
    (cache.releaseSlot key).slots.Sublist cache.slots := by
  unfold releaseSlot
  split
  · exact List.Sublist.refl _
  · split
    · exact List.filter_sublist
    · exact List.Sublist.refl _

/-- An attempt makes no slot. -/
theorem slots_poll_sublist (id : Nat) : (cache.poll id).1.slots.Sublist cache.slots := by
  unfold poll
  split
  · exact List.Sublist.refl _
  · next call _ =>
      dsimp only
      split
      · exact List.Sublist.refl _
      · split
        · split
          · exact List.Sublist.refl _
          · split
            · exact List.Sublist.refl _
            · exact (cache.leaveLine call).slots_releaseSlot_sublist call.key
        · exact List.Sublist.refl _

theorem slots_abandon (id : Nat) : (cache.abandon id).slots = cache.slots := by
  unfold abandon
  split <;> rfl

theorem OneSlotEach.cellOf (h : cache.OneSlotEach) (key : String) :
    (cache.cellOf key).2.OneSlotEach := by
  unfold Cache.cellOf
  split
  · exact h
  · next hnone =>
      have hnew : ∀ slot ∈ cache.slots, slot.1 ≠ key := by
        intro slot hslot heq
        have hapart := List.lookup_eq_none_iff.mp hnone slot hslot
        simp [heq] at hapart
      rw [OneSlotEach, List.map_append, List.nodup_append]
      refine ⟨h, by simp, ?_⟩
      simpa using hnew

theorem OneSlotEach.step (h : cache.OneSlotEach) (event : Event α ε) :
    (cache.step event).1.OneSlotEach := by
  cases event with
  | arrive id key work =>
      have hjoined : (cache.join id key work).OneSlotEach := by
        rw [OneSlotEach, join, slots_enter]
        exact h.cellOf key
      exact hjoined.sublist (slots_poll_sublist id)
  | poll id => exact h.sublist (slots_poll_sublist id)
  | abandon id =>
      rw [OneSlotEach, Cache.step, slots_abandon]
      exact h

theorem oneSlotEach_after (partition : String) (events : List (Event α ε)) :
    (after partition events).OneSlotEach := by
  induction events using List.reverseRecOn with
  | nil => exact List.nodup_nil
  | append_singleton before event ih =>
      rw [after_concat]
      exact ih.step event

theorem OneSlotEach.lookup_eq_some_iff (h : cache.OneSlotEach) {key : String} {n : Nat} :
    cache.slots.lookup key = some n ↔ (key, n) ∈ cache.slots := by
  rw [OneSlotEach] at h
  generalize cache.slots = slots at h ⊢
  induction slots with
  | nil => simp
  | cons slot rest ih =>
      obtain ⟨other, m⟩ := slot
      obtain ⟨hnew, hrest⟩ := List.nodup_cons.mp h
      by_cases hkey : key = other
      · subst hkey
        have hout : (key, n) ∉ rest := fun hmem => hnew (List.mem_map.mpr ⟨(key, n), hmem, rfl⟩)
        simp [hout, eq_comm]
      · simp [List.lookup_cons, beq_false_of_ne hkey, hkey, ih hrest]

/-- The keys that have a value. -/
def keys (cache : Cache α ε) : List String :=
  (cache.slots.filter fun slot => (cache.cells slot.2).value.isSome).map Prod.fst

theorem length_keys : cache.keys.length = cache.size := List.length_map Prod.fst

theorem OneSlotEach.nodup_keys (h : cache.OneSlotEach) : cache.keys.Nodup :=
  List.Nodup.sublist (List.filter_sublist.map Prod.fst) h

theorem OneSlotEach.mem_keys_iff (h : cache.OneSlotEach) {key : String} :
    key ∈ cache.keys ↔ ∃ v, cache.get? key = some v := by
  simp only [keys, List.mem_map, List.mem_filter, Option.isSome_iff_exists, get?,
    Option.bind_eq_some_iff, h.lookup_eq_some_iff]
  constructor
  · rintro ⟨⟨_, n⟩, ⟨hslot, v, hvalue⟩, rfl⟩
    exact ⟨v, n, hslot, hvalue⟩
  · rintro ⟨v, n, hslot, hvalue⟩
    exact ⟨(key, n), ⟨hslot, v, hvalue⟩, rfl⟩

/-! ### Every moment of every run -/

/-- A cache that shows what has been constructed, all of it and nothing else, and keeps it. -/
structure Retains (partition : String) (events : List (Event α ε)) : Prop where
  get?_iff : ∀ key v,
    (after partition events).get? key = some v ↔ Constructed partition events key v
  stays : ∀ before rest, events = before ++ rest → ∀ key v,
    (after partition before).get? key = some v → (after partition events).get? key = some v
  contains_iff : ∀ key, (after partition events).contains key = true ↔
    ∃ v, (after partition events).get? key = some v
  /-- The size is the number of keys that have a value. -/
  size_eq : ∃ keys : List String, keys.Nodup ∧
    (∀ key, key ∈ keys ↔ ∃ v, (after partition events).get? key = some v) ∧
      (after partition events).size = keys.length
  isEmpty_iff : (after partition events).isEmpty = true ↔
    ∀ key, (after partition events).get? key = none

/-- However callers come, are polled and give up, a cache retains what is constructed. -/
theorem retains (partition : String) (events : List (Event α ε)) (hnodup : (arrivals events).Nodup) :
    Retains partition events := by
  have hdistinct : Distinct [] events := ⟨hnodup, fun _ _ => List.not_mem_nil⟩
  have hslots := oneSlotEach_after partition events
  refine ⟨fun key v => get?_after_eq_some_iff hdistinct, ?_, fun key => Option.isSome_iff_exists,
    ⟨_, hslots.nodup_keys, fun key => hslots.mem_keys_iff, length_keys.symm⟩, ?_⟩
  · rintro before rest rfl key v hget
    rw [get?_after_eq_some_iff hdistinct]
    exact ((get?_after_eq_some_iff hdistinct.front).mp hget).mono rest
  · have hempty : (after partition events).isEmpty = true ↔ (after partition events).keys = [] := by
      rw [isEmpty, beq_iff_eq, ← length_keys, List.length_eq_zero_iff]
    rw [hempty, List.eq_nil_iff_forall_not_mem]
    refine forall_congr' fun key => ?_
    rw [hslots.mem_keys_iff, Option.eq_none_iff_forall_ne_some, not_exists]

/-- Of the three callers of one key the last is answered by its own constructor, whose value is not
there before. -/
theorem retains_threeForOne :
    (arrivals threeForOne).Nodup ∧ Retains "t" threeForOne ∧
      Constructed "t" threeForOne "a" "made" ∧ (after "t" threeForOne).size = 2 ∧
      (after "t" (threeForOne.take 6)).get? "a" = none :=
  have hretains : Retains "t" threeForOne := retains "t" threeForOne (by decide)
  ⟨by decide, hretains, (hretains.get?_iff "a" "made").mp (by decide), by decide, by decide⟩

end Cache

end Signpost
