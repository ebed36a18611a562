import Signpost.Proofs.Cache.Reckoning

/-!
Runs of any length.  What is constructed for a key is constructed by one caller at a time,
and every caller that comes to its end does so as if it had waited for all that came before
it to come to theirs.
-/

namespace Signpost

namespace Cache

variable {α ε : Type} {cache : Cache α ε}

/-- The numbers under which callers come, in the order of their coming. -/
def arrivals (events : List (Event α ε)) : List Nat :=
  events.filterMap Event.comer?

/-- The callers that have come and not given up at the end of a run. -/
def callersAfter (cache : Cache α ε) (callers : List (Caller α ε)) :
    List (Event α ε) → List (Caller α ε)
  | [] => callers
  | event :: rest => (cache.step event).1.callersAfter (cache.enroll callers event) rest

/-- No event of a run lets a caller come under a number that is taken, by one of these callers
or by another event. -/
structure Distinct (callers : List (Caller α ε)) (events : List (Event α ε)) : Prop where
  nodup : (arrivals events).Nodup
  untaken : ∀ id ∈ arrivals events, id ∉ callers.map Caller.id

section Runs

variable {callers : List (Caller α ε)} {answers : List (Nat × Answer α ε)}

theorem mem_arrivals {event : Event α ε} {events : List (Event α ε)} (hevent : event ∈ events)
    {id : Nat} (hcomer : event.comer? = some id) : id ∈ arrivals events :=
  List.mem_filterMap.mpr ⟨event, hevent, hcomer⟩

theorem Distinct.head {event : Event α ε} {rest : List (Event α ε)}
    (h : Distinct callers (event :: rest)) (id : Nat) (hcomer : event.comer? = some id) :
    id ∉ callers.map Caller.id :=
  h.untaken id (mem_arrivals List.mem_cons_self hcomer)

theorem Distinct.tail {event : Event α ε} {rest : List (Event α ε)}
    (h : Distinct callers (event :: rest)) : Distinct (cache.enroll callers event) rest where
  nodup := h.nodup.sublist ((List.sublist_cons_self event rest).filterMap Event.comer?)
  untaken := by
    intro id hid hmem
    obtain ⟨caller, hcaller, rfl⟩ := List.mem_map.mp hmem
    rcases mem_enroll hcaller with hold | rfl
    · refine h.untaken caller.id ?_ (List.mem_map_of_mem hold)
      obtain ⟨other, hother, hcomer⟩ := List.mem_filterMap.mp hid
      exact mem_arrivals (List.mem_cons_of_mem event hother) hcomer
    · have hnodup := h.nodup
      change (caller.id :: arrivals rest).Nodup at hnodup
      exact (List.nodup_cons.mp hnodup).1 hid

theorem Reckoned.run (h : cache.Reckoned callers answers) {events : List (Event α ε)}
    (hdistinct : Distinct callers events) :
    (cache.run events).1.Reckoned (cache.callersAfter callers events)
      (answers ++ (cache.run events).2) := by
  induction events generalizing cache callers answers with
  | nil => simpa [Cache.run, callersAfter] using h
  | cons event rest ih =>
      have hstep := ih (h.step hdistinct.head) hdistinct.tail
      rwa [List.append_assoc] at hstep

theorem Distinct.front {before after : List (Event α ε)}
    (h : Distinct callers (before ++ after)) : Distinct callers before where
  nodup := h.nodup.sublist ((List.sublist_append_left before after).filterMap Event.comer?)
  untaken := by
    intro id hid
    obtain ⟨event, hevent, hcomer⟩ := List.mem_filterMap.mp hid
    exact h.untaken id (mem_arrivals (List.mem_append_left after hevent) hcomer)

theorem Distinct.back {before after : List (Event α ε)}
    (h : Distinct callers (before ++ after)) :
    Distinct (cache.callersAfter callers before) after := by
  induction before generalizing cache callers with
  | nil => exact h
  | cons event rest ih => exact ih h.tail

theorem run_cons (event : Event α ε) (rest : List (Event α ε)) :
    cache.run (event :: rest) =
      (((cache.step event).1.run rest).1,
        (cache.step event).2.toList ++ ((cache.step event).1.run rest).2) := rfl

theorem run_append (before after : List (Event α ε)) :
    cache.run (before ++ after) =
      (((cache.run before).1.run after).1,
        (cache.run before).2 ++ ((cache.run before).1.run after).2) := by
  induction before generalizing cache with
  | nil => rfl
  | cons event rest ih =>
      rw [List.cons_append, run_cons, ih, run_cons, List.append_assoc]

/-- An answer is given at one of the events. -/
theorem exists_of_mem_run {events : List (Event α ε)} {answer : Nat × Answer α ε}
    (h : answer ∈ (cache.run events).2) :
    ∃ before event after, events = before ++ event :: after ∧
      ((cache.run before).1.step event).2 = some answer := by
  induction events generalizing cache with
  | nil => exact absurd h List.not_mem_nil
  | cons event rest ih =>
      rw [run_cons, List.mem_append, Option.mem_toList] at h
      rcases h with h | h
      · exact ⟨[], event, rest, rfl, h⟩
      · obtain ⟨before, later, after, rfl, hlater⟩ := ih h
        exact ⟨event :: before, later, after, rfl, hlater⟩

/-- Whoever is in flight at the end was so at the start, or has come since. -/
theorem Reckoned.came_run (h : cache.Reckoned callers answers) {events : List (Event α ε)}
    (hdistinct : Distinct callers events) {later : Call α ε}
    (hlater : later ∈ (cache.run events).1.calls) :
    (∃ call ∈ cache.calls, call.id = later.id ∧ call.key = later.key ∧
        call.work.result = later.work.result) ∨
      ∃ pauses, .arrive later.id later.key ⟨pauses, later.work.result⟩ ∈ events := by
  induction events generalizing cache callers answers with
  | nil => exact Or.inl ⟨later, hlater, rfl, rfl, rfl⟩
  | cons event rest ih =>
      rcases ih (h.step hdistinct.head) hdistinct.tail hlater with
        ⟨call, hcall, hid, hkey, hresult⟩ | ⟨pauses, hcame⟩
      · obtain ⟨other, hother, hotherId, hotherKey, hotherResult⟩ :=
          h.sound.came (h.fresh hdistinct.head) hcall
        rw [← hid, ← hkey, ← hresult, ← hotherId, ← hotherKey, ← hotherResult]
        rcases mem_calls_letIn hother with hold | rfl
        · exact Or.inl ⟨other, hold, rfl, rfl, rfl⟩
        · exact Or.inr ⟨other.work.pauses, List.mem_cons_self⟩
      · exact Or.inr ⟨pauses, List.mem_cons_of_mem event hcame⟩

/-- A caller that is gone does not come back. -/
theorem Reckoned.gone_run (h : cache.Reckoned callers answers) {events : List (Event α ε)}
    (hdistinct : Distinct callers events) {id : Nat} (hid : id ∉ arrivals events)
    (hgone : ∀ call ∈ cache.calls, call.id ≠ id) :
    ∀ later ∈ (cache.run events).1.calls, later.id ≠ id := by
  rintro later hlater rfl
  rcases h.came_run hdistinct hlater with ⟨call, hcall, heq, -⟩ | ⟨pauses, hcame⟩
  · exact hgone call hcall heq
  · exact hid (mem_arrivals hcame rfl)

/-- A caller with the turn keeps it until it is gone. -/
theorem Reckoned.keeps_turn_run (h : cache.Reckoned callers answers) {events : List (Event α ε)}
    (hdistinct : Distinct callers events) {first : Call α ε} (hturn : cache.HasTurn first)
    (hstay : ∃ later ∈ (cache.run events).1.calls, later.id = first.id) :
    ∃ later, later.id = first.id ∧ later.key = first.key ∧
      (cache.run events).1.HasTurn later := by
  induction events generalizing cache callers answers first with
  | nil => exact ⟨first, rfl, rfl, hturn⟩
  | cons event rest ih =>
      have hnext := h.step hdistinct.head
      have hnew : first.id ∉ arrivals rest := by
        intro hmem
        have hknown := id_mem_of_callersOf (h.id_mem hturn.mem)
        obtain ⟨other, hother, hcomer⟩ := List.mem_filterMap.mp hmem
        exact hdistinct.untaken first.id
          (mem_arrivals (List.mem_cons_of_mem event hother) hcomer) hknown
      have hhere : ∃ later ∈ (cache.step event).1.calls, later.id = first.id := by
        by_contra hgone
        obtain ⟨later, hlater, hid⟩ := hstay
        refine hnext.gone_run hdistinct.tail hnew ?_ later hlater hid
        exact fun call hcall heq => hgone ⟨call, hcall, heq⟩
      obtain ⟨next, hid, hkey, hnextTurn⟩ := h.sound.keeps_turn (h.fresh hdistinct.head)
        (h.sound.keeps_turn_letIn hturn event) hhere
      obtain ⟨last, hlastId, hlastKey, hlast⟩ := ih hnext hdistinct.tail hnextTurn (hid ▸ hstay)
      exact ⟨last, hlastId.trans hid, hlastKey.trans hkey, hlast⟩

end Runs

/-! ### From the beginning -/

/-- The cache that a run leaves. -/
def after (partition : String) (events : List (Event α ε)) : Cache α ε :=
  ((empty partition).run events).1

/-- The constructor of a caller has run at one of the events. -/
def HasRun (partition : String) (events : List (Event α ε)) (id : Nat) : Prop :=
  ∃ before event rest, events = before ++ event :: rest ∧ (after partition before).Runs event id

/-- The constructor of a caller is in progress: it has run, and its caller is still in flight. -/
def InProgress (partition : String) (events : List (Event α ε)) (id : Nat) : Prop :=
  HasRun partition events id ∧ ∃ call ∈ (after partition events).calls, call.id = id

section Beginning

variable {partition : String} {events : List (Event α ε)}

theorem reckoned_after (partition : String) (hdistinct : Distinct [] events) :
    (after partition events).Reckoned ((empty partition).callersAfter [] events)
      ((empty partition).run events).2 :=
  (reckoned_empty partition).run hdistinct

theorem sound_after (partition : String) (hdistinct : Distinct [] events) :
    (after partition events).Sound :=
  (reckoned_after partition hdistinct).sound

theorem distinct_back (partition : String) {before rest : List (Event α ε)}
    (hdistinct : Distinct [] (before ++ rest)) :
    Distinct ((empty partition).callersAfter [] before) rest :=
  hdistinct.back

theorem fresh_after (partition : String) {before rest : List (Event α ε)} {event : Event α ε}
    (hdistinct : Distinct [] (before ++ event :: rest)) :
    (after partition before).Fresh event :=
  (reckoned_after partition hdistinct.front).fresh (distinct_back partition hdistinct).head

/-- Whose constructor runs at an event of a run has the turn there. -/
theorem turn_of_runs {before rest : List (Event α ε)} {event : Event α ε}
    (hdistinct : Distinct [] (before ++ event :: rest)) {id : Nat}
    (hruns : (after partition before).Runs event id) :
    ∃ first, first.id = id ∧ ((after partition before).letIn event).HasTurn first :=
  (sound_after partition hdistinct.front).turn_of_runs (fresh_after partition hdistinct) hruns

theorem after_append (before rest : List (Event α ε)) :
    after partition (before ++ rest) = ((after partition before).run rest).1 := by
  rw [after, run_append]
  rfl

/-- A caller that has come is not to come again. -/
theorem not_mem_arrivals_of_came {before rest : List (Event α ε)}
    (hdistinct : Distinct [] (before ++ rest)) {id : Nat} (hid : id ∈ arrivals before) :
    id ∉ arrivals rest := by
  have hnodup := hdistinct.nodup
  rw [arrivals, List.filterMap_append, List.nodup_append] at hnodup
  exact fun hmem => hnodup.2.2 id hid id hmem rfl

theorem arrival_of_mem_calls (hdistinct : Distinct [] events) {call : Call α ε}
    (hcall : call ∈ (after partition events).calls) :
    ∃ pauses, .arrive call.id call.key ⟨pauses, call.work.result⟩ ∈ events := by
  rcases (reckoned_empty partition).came_run hdistinct hcall with ⟨other, hother, -⟩ | hcame
  · exact absurd hother List.not_mem_nil
  · exact hcame

theorem arrival_of_mem_letIn {before rest : List (Event α ε)} {event : Event α ε}
    (hdistinct : Distinct [] (before ++ event :: rest)) {call : Call α ε}
    (hcall : call ∈ ((after partition before).letIn event).calls) :
    ∃ pauses, .arrive call.id call.key ⟨pauses, call.work.result⟩ ∈ before ++ [event] := by
  rcases mem_calls_letIn hcall with hcall | rfl
  · obtain ⟨pauses, hcame⟩ := arrival_of_mem_calls hdistinct.front hcall
    exact ⟨pauses, List.mem_append_left _ hcame⟩
  · exact ⟨call.work.pauses, List.mem_append_right _ List.mem_cons_self⟩

/-- A constructor in progress is that of the caller with the turn. -/
theorem turn_of_inProgress (hdistinct : Distinct [] events) {id : Nat}
    (h : InProgress partition events id) :
    ∃ first, first.id = id ∧ (after partition events).HasTurn first := by
  obtain ⟨⟨before, event, rest, rfl, hruns⟩, last, hlast, rfl⟩ := h
  have hbefore := reckoned_after partition hdistinct.front
  have hback := distinct_back partition hdistinct
  have hfresh := fresh_after partition hdistinct
  obtain ⟨first, hid, hturn⟩ := turn_of_runs hdistinct hruns
  have hsplit : after partition (before ++ event :: rest) =
      (((after partition before).step event).1.run rest).1 := after_append before (event :: rest)
  rw [hsplit] at hlast ⊢
  have hnext := hbefore.step hback.head
  have hnew : last.id ∉ arrivals rest := by
    rw [List.append_cons] at hdistinct
    obtain ⟨pauses, hcame⟩ := arrival_of_mem_letIn (by rwa [List.append_cons]) hturn.mem
    exact not_mem_arrivals_of_came hdistinct (mem_arrivals hcame (by rw [← hid]; rfl))
  have hhere : ∃ later ∈ ((after partition before).step event).1.calls, later.id = first.id := by
    by_contra hgone
    refine hnext.gone_run hback.tail hnew ?_ last hlast rfl
    exact fun call hcall heq => hgone ⟨call, hcall, heq.trans hid.symm⟩
  obtain ⟨next, hnextId, -, hnextTurn⟩ := hbefore.sound.keeps_turn hfresh hturn hhere
  obtain ⟨final, hfinalId, -, hfinal⟩ := hnext.keeps_turn_run hback.tail hnextTurn
    ⟨last, hlast, (hnextId.trans hid).symm⟩
  exact ⟨final, hfinalId.trans (hnextId.trans hid), hfinal⟩

theorem key_eq_of_arrivals (hnodup : (arrivals events).Nodup) {id : Nat} {first second : String}
    {work later : Work α ε} (hfirst : .arrive id first work ∈ events)
    (hsecond : .arrive id second later ∈ events) : first = second := by
  induction events with
  | nil => exact absurd hfirst List.not_mem_nil
  | cons event rest ih =>
      have hrest : (arrivals rest).Nodup :=
        hnodup.sublist ((List.sublist_cons_self event rest).filterMap Event.comer?)
      have hnew : ∀ {key : String} {work : Work α ε}, event = .arrive id key work →
          ∀ {other : String} {later : Work α ε}, .arrive id other later ∉ rest := by
        rintro key work rfl other later hmem
        exact (List.nodup_cons.mp hnodup).1 (mem_arrivals hmem rfl)
      rcases List.mem_cons.mp hfirst with heq | hfirst
      · rcases List.mem_cons.mp hsecond with hother | hsecond
        · exact (Event.arrive.inj (heq.trans hother.symm)).2.1
        · exact absurd hsecond (hnew heq.symm)
      · rcases List.mem_cons.mp hsecond with hother | hsecond
        · exact absurd hfirst (hnew hother.symm)
        · exact ih hrest hfirst hsecond

/-- A caller with the turn came for the key that it has the turn at. -/
theorem key_eq_of_turn {before rest : List (Event α ε)} {event : Event α ε}
    (hdistinct : Distinct [] (before ++ event :: rest)) {call : Call α ε}
    (hcall : call ∈ ((after partition before).letIn event).calls) {key : String} {work : Work α ε}
    (hcame : .arrive call.id key work ∈ before ++ event :: rest) : call.key = key := by
  obtain ⟨pauses, hown⟩ := arrival_of_mem_letIn hdistinct hcall
  rw [List.append_cons] at hdistinct hcame
  exact key_eq_of_arrivals hdistinct.nodup (List.mem_append_left _ hown) hcame

/-- The constructors of two callers of one key are not in progress together. -/
theorem eq_of_inProgress {before rest : List (Event α ε)}
    (hdistinct : Distinct [] (before ++ rest)) {first second : Nat}
    (hfirst : InProgress partition before first) (hsecond : InProgress partition before second)
    {key : String} {work later : Work α ε}
    (hfirstCame : .arrive first key work ∈ before ++ rest)
    (hsecondCame : .arrive second key later ∈ before ++ rest) : first = second := by
  obtain ⟨holder, rfl, hholder⟩ := turn_of_inProgress hdistinct.front hfirst
  obtain ⟨other, rfl, hother⟩ := turn_of_inProgress hdistinct.front hsecond
  obtain ⟨pauses, hown⟩ := arrival_of_mem_calls hdistinct.front hholder.mem
  obtain ⟨others, hits⟩ := arrival_of_mem_calls hdistinct.front hother.mem
  have hkey : holder.key = key :=
    key_eq_of_arrivals hdistinct.nodup (List.mem_append_left rest hown) hfirstCame
  have hotherKey : other.key = key :=
    key_eq_of_arrivals hdistinct.nodup (List.mem_append_left rest hits) hsecondCame
  rw [hholder.eq hother (hkey.trans hotherKey.symm)]

/-- While the constructor of one caller is in progress, none of another caller of its key runs. -/
theorem eq_of_inProgress_of_runs {before rest : List (Event α ε)} {event : Event α ε}
    (hdistinct : Distinct [] (before ++ event :: rest)) {first second : Nat}
    (hfirst : InProgress partition before first)
    (hsecond : (after partition before).Runs event second) {key : String} {work later : Work α ε}
    (hfirstCame : .arrive first key work ∈ before ++ event :: rest)
    (hsecondCame : .arrive second key later ∈ before ++ event :: rest) : first = second := by
  obtain ⟨holder, rfl, hholder⟩ := turn_of_inProgress hdistinct.front hfirst
  obtain ⟨runner, rfl, hrunner⟩ := turn_of_runs hdistinct hsecond
  have hjoined := (sound_after partition hdistinct.front).keeps_turn_letIn hholder event
  have hkey := key_eq_of_turn hdistinct hjoined.mem hfirstCame
  have hrunnerKey := key_eq_of_turn hdistinct hrunner.mem hsecondCame
  rw [hjoined.eq hrunner (hkey.trans hrunnerKey.symm)]

/-- A caller whose constructor runs at an event has come, at the latest with it. -/
theorem mem_arrivals_of_runs {before rest : List (Event α ε)} {event : Event α ε}
    (hdistinct : Distinct [] (before ++ event :: rest)) {id : Nat}
    (hruns : (after partition before).Runs event id) : id ∈ arrivals (before ++ [event]) := by
  obtain ⟨first, rfl, hturn⟩ := turn_of_runs hdistinct hruns
  obtain ⟨pauses, hcame⟩ := arrival_of_mem_letIn hdistinct hturn.mem
  exact mem_arrivals hcame rfl

/-- A caller that has been answered does not run any more. -/
theorem not_runs_of_gone {before between rest : List (Event α ε)} {event other : Event α ε}
    (hdistinct : Distinct [] (before ++ event :: (between ++ other :: rest))) {id : Nat}
    (hcame : id ∈ arrivals (before ++ [event]))
    (hgone : ∀ call ∈ (after partition (before ++ [event])).calls, call.id ≠ id) :
    ¬ (after partition (before ++ event :: between)).Runs other id := by
  intro hruns
  rw [List.append_cons] at hdistinct hruns
  have hnew := not_mem_arrivals_of_came hdistinct hcame
  have hbefore := reckoned_after partition hdistinct.front
  have hback := distinct_back partition hdistinct
  rw [← List.append_assoc] at hdistinct
  obtain ⟨first, rfl, hturn⟩ := turn_of_runs hdistinct hruns
  rcases mem_calls_letIn hturn.mem with hmem | rfl
  · rw [after_append] at hmem
    refine hbefore.gone_run hback.front ?_ hgone first hmem rfl
    rw [arrivals, List.filterMap_append] at hnew
    exact fun hid => hnew (List.mem_append_left _ hid)
  · exact hnew (mem_arrivals (List.mem_append_right _ List.mem_cons_self) rfl)

/-- Whose constructor has run at an earlier event has the turn when it is answered. -/
theorem turn_of_runs_before {before between rest : List (Event α ε)} {event other : Event α ε}
    (hdistinct : Distinct [] ((before ++ event :: between) ++ other :: rest)) {id : Nat}
    (hruns : (after partition before).Runs event id) {call : Call α ε}
    (hcall : call ∈ ((after partition (before ++ event :: between)).letIn other).calls)
    (hid : call.id = id) :
    ∃ first, first.id = id ∧
      ((after partition (before ++ event :: between)).letIn other).HasTurn first := by
  have hcame : id ∈ arrivals (before ++ event :: between) := by
    have hfront : Distinct [] (before ++ event :: between) := hdistinct.front
    rw [List.append_cons, arrivals, List.filterMap_append]
    exact List.mem_append_left _ (mem_arrivals_of_runs hfront hruns)
  have hin : call ∈ (after partition (before ++ event :: between)).calls := by
    rcases mem_calls_letIn hcall with hmem | rfl
    · exact hmem
    · subst hid
      have hnew := not_mem_arrivals_of_came hdistinct hcame
      exact absurd (mem_arrivals List.mem_cons_self rfl) hnew
  obtain ⟨first, hfirst, hturn⟩ := turn_of_inProgress hdistinct.front
    ⟨⟨before, event, between, rfl, hruns⟩, call, hin, hid⟩
  exact ⟨first, hfirst, (sound_after partition hdistinct.front).keeps_turn_letIn hturn other⟩

/-- Of two places in a list the one is before the other, or they are the same. -/
theorem append_cons_eq_append_cons {before rest earlier later : List (Event α ε)}
    {event other : Event α ε} (h : before ++ event :: rest = earlier ++ other :: later) :
    (∃ between, earlier = before ++ event :: between ∧ rest = between ++ other :: later) ∨
      (before = earlier ∧ event = other ∧ rest = later) ∨
        ∃ between, before = earlier ++ other :: between ∧ later = between ++ event :: rest := by
  rcases List.append_eq_append_iff.mp h with ⟨between, rfl, hrest⟩ | ⟨between, rfl, hrest⟩
  · cases between with
    | nil =>
        obtain ⟨rfl, rfl⟩ := List.cons.inj hrest
        exact Or.inr (Or.inl ⟨(List.append_nil before).symm, rfl, rfl⟩)
    | cons head between =>
        obtain ⟨rfl, rfl⟩ := List.cons.inj hrest
        exact Or.inl ⟨between, rfl, rfl⟩
  · cases between with
    | nil =>
        obtain ⟨rfl, rfl⟩ := List.cons.inj hrest
        exact Or.inr (Or.inl ⟨List.append_nil earlier, rfl, rfl⟩)
    | cons head between =>
        obtain ⟨rfl, rfl⟩ := List.cons.inj hrest
        exact Or.inr (Or.inr ⟨between, rfl, rfl⟩)

/-- An answer says of its caller's constructor that it has run if and only if it has. -/
theorem ran_iff_hasRun (hdistinct : Distinct [] events) {id : Nat} {answer : Answer α ε}
    (hanswer : (id, answer) ∈ ((empty partition).run events).2) :
    answer.ran = true ↔ HasRun partition events id := by
  obtain ⟨before, event, rest, rfl, hstep⟩ := exists_of_mem_run hanswer
  change ((after partition before).step event).2 = some (id, answer) at hstep
  have hsound := sound_after partition hdistinct.front
  have hparts := hsound.parts (fresh_after partition hdistinct) hstep
  obtain ⟨call, hcall, hid⟩ := hparts.present
  constructor
  · intro hran
    obtain ⟨result, ran⟩ := answer
    obtain rfl : ran = true := hran
    exact ⟨before, event, rest, rfl, Or.inl ⟨result, hstep⟩⟩
  · rintro ⟨earlier, other, later, hsplit, hruns⟩
    rcases append_cons_eq_append_cons hsplit with
      ⟨between, rfl, rfl⟩ | ⟨rfl, rfl, -⟩ | ⟨between, rfl, -⟩
    · obtain ⟨pauses, hcame⟩ := arrival_of_mem_letIn hdistinct hcall
      have hgone : ∀ call ∈ (after partition (before ++ [event])).calls, call.id ≠ id := by
        rw [after_append]
        exact hparts.gone
      exact absurd hruns
        (not_runs_of_gone hdistinct (mem_arrivals hcame (congrArg some hid)) hgone)
    · obtain ⟨first, hfirst, hturn⟩ := turn_of_runs hdistinct hruns
      exact hparts.ran first hturn hfirst
    · obtain ⟨first, hfirst, hturn⟩ := turn_of_runs_before hdistinct hruns hcall hid
      exact hparts.ran first hturn hfirst

/-- A cache that computes what is absent, one caller of a key at a time. -/
structure ComputesIfAbsent (partition : String) (events : List (Event α ε)) : Prop where
  /-- Of one key no two constructors are in progress together, -/
  exclusive : ∀ before rest, events = before ++ rest → ∀ first second key work later,
    .arrive first key work ∈ events → .arrive second key later ∈ events →
      InProgress partition before first → InProgress partition before second → first = second
  /-- and while one is in progress, no event lets another run from start to end. -/
  undisturbed : ∀ before event rest, events = before ++ event :: rest →
    ∀ first second key work later,
      .arrive first key work ∈ events → .arrive second key later ∈ events →
        InProgress partition before first → (after partition before).Runs event second →
          first = second
  /-- Whoever ends, ends as it does one by one with the others of its key. -/
  in_order : ∀ id answer, (id, answer) ∈ ((empty partition).run events).2 →
    ∃ caller ∈ (empty partition).callersAfter [] events, caller.id = id ∧
      (id, answer) ∈
        oneByOne none (callersOf ((empty partition).callersAfter [] events) caller.key)
  /-- One by one is how they end if each is called when the one before it has ended. -/
  one_by_one : ∀ key,
    ((empty partition).callEach
        (callersOf ((empty partition).callersAfter [] events) key)).2 =
      oneByOne none (callersOf ((empty partition).callersAfter [] events) key)
  ran : ∀ id answer, (id, answer) ∈ ((empty partition).run events).2 →
    (answer.ran = true ↔ HasRun partition events id)

/-- However callers come, are polled and give up, what they see is computed once, by the first
of them that can. -/
theorem computesIfAbsent (partition : String) (events : List (Event α ε))
    (hnodup : (arrivals events).Nodup) : ComputesIfAbsent partition events := by
  have hdistinct : Distinct [] events := ⟨hnodup, fun _ _ => List.not_mem_nil⟩
  have hafter := reckoned_after partition hdistinct
  refine ⟨?_, ?_, ?_, ?_, fun id answer hanswer => ran_iff_hasRun hdistinct hanswer⟩
  · rintro before rest rfl first second key work later hfirst hsecond hrunning hother
    exact eq_of_inProgress hdistinct hrunning hother hfirst hsecond
  · rintro before event rest rfl first second key work later hfirst hsecond hrunning hruns
    exact eq_of_inProgress_of_runs hdistinct hrunning hruns hfirst hsecond
  · intro id answer hanswer
    obtain ⟨caller, hcaller, rfl⟩ := List.mem_map.mp (hafter.ended _ hanswer).1
    have hown : caller ∈ callersOf ((empty partition).callersAfter [] events) caller.key :=
      List.mem_filter.mpr ⟨hcaller, by simp⟩
    exact ⟨caller, hcaller, rfl,
      (hafter.standing caller.key).mem_oneByOne hanswer (List.mem_map_of_mem hown)⟩
  · intro key
    apply (settled_empty partition).callEach
    intro caller hcaller
    simpa using (List.mem_filter.mp hcaller).2

end Beginning

/-- Three callers of one key and one of another: the first fails after a pause, the second gives
up, the third constructs the value. -/
def threeForOne : List (Event String String) :=
  [.arrive 0 "a" ⟨1, .error "no"⟩, .arrive 1 "a" ⟨0, .ok "lost"⟩, .arrive 2 "b" ⟨0, .ok "other"⟩,
    .arrive 3 "a" ⟨0, .ok "made"⟩, .abandon 1, .poll 0, .poll 3]

theorem computesIfAbsent_threeForOne :
    (arrivals threeForOne).Nodup ∧ ComputesIfAbsent "t" threeForOne ∧
      ((empty "t").run threeForOne).2.map Prod.fst = [2, 0, 3] ∧
      ((empty "t").run threeForOne).2.map (fun answer => answer.2.result.toOption) =
        [some "other", none, some "made"] :=
  ⟨by decide, computesIfAbsent "t" threeForOne (by decide), by decide, by decide⟩

end Cache

end Signpost
