import Signpost.Proofs.Cache.Alone

/-!
First come, first served.  However the callers of a cache are polled, each of them ends
as it would if the callers of its key were called one after the other, in the order in
which they came, those left out that gave up.
-/

namespace Signpost

namespace Cache

variable {α ε : Type} {cache : Cache α ε}

/-- A caller as it came. -/
structure Caller (α ε : Type) where
  id : Nat
  key : String
  work : Work α ε

/-- A caller whose own constructor has no value to give. -/
def Caller.Fails (caller : Caller α ε) : Prop :=
  ∃ e, caller.work.result = .error e

/-- What the callers of one key end with one after the other: as long as the key has no
value each runs its own constructor, and after that nobody does. -/
def oneByOne : Option α → List (Caller α ε) → List (Nat × Answer α ε)
  | _, [] => []
  | some v, caller :: rest => (caller.id, ⟨.ok v, false⟩) :: oneByOne (some v) rest
  | none, caller :: rest =>
      (caller.id, ⟨caller.work.result, true⟩) :: oneByOne caller.work.result.toOption rest

theorem oneByOne_some (v : α) (callers : List (Caller α ε)) :
    oneByOne (some v) callers = callers.map fun caller => (caller.id, ⟨.ok v, false⟩) := by
  induction callers with
  | nil => rfl
  | cons caller rest ih => rw [oneByOne, ih, List.map_cons]

/-- Callers that fail leave the key to those behind them. -/
theorem oneByOne_append {past : List (Caller α ε)} (hpast : ∀ caller ∈ past, caller.Fails)
    (rest : List (Caller α ε)) :
    oneByOne none (past ++ rest) = oneByOne none past ++ oneByOne none rest := by
  induction past with
  | nil => rfl
  | cons caller past ih =>
      obtain ⟨e, he⟩ := hpast caller List.mem_cons_self
      have hrest := ih fun other hother => hpast other (List.mem_cons_of_mem caller hother)
      simp only [List.cons_append, oneByOne, he, Except.toOption]
      rw [hrest]

theorem oneByOne_settled {past : List (Caller α ε)} (hpast : ∀ caller ∈ past, caller.Fails)
    {first : Caller α ε} {v : α} (hfirst : first.work.result = .ok v)
    (rest : List (Caller α ε)) :
    oneByOne none (past ++ first :: rest) = oneByOne none past ++
      (first.id, ⟨.ok v, true⟩) :: rest.map fun caller => (caller.id, ⟨.ok v, false⟩) := by
  rw [oneByOne_append hpast, oneByOne, hfirst, ← oneByOne_some]
  rfl

/-- Calls one after the other, each going on when the one before it has ended. -/
def callEach (cache : Cache α ε) : List (Caller α ε) → Cache α ε × List (Nat × Answer α ε)
  | [] => (cache, [])
  | caller :: rest =>
      let (next, answer) := cache.call caller.key caller.work
      let (last, answers) := next.callEach rest
      (last, (answer.map (caller.id, ·)).toList ++ answers)

theorem Settled.callEach (h : cache.Settled) {key : String} {callers : List (Caller α ε)}
    (hkey : ∀ caller ∈ callers, caller.key = key) :
    (cache.callEach callers).2 = oneByOne (cache.get? key) callers := by
  induction callers generalizing cache with
  | nil => cases cache.get? key <;> rfl
  | cons caller rest ih =>
      obtain ⟨next, answer, hcall, hcompleted⟩ := h.call caller.key caller.work
      have hrest := ih hcompleted.settled fun other hother =>
        hkey other (List.mem_cons_of_mem caller hother)
      have hown := hcompleted.get?_self
      have hanswer := hcompleted.answer_eq
      rw [hkey caller List.mem_cons_self] at hown hanswer
      simp only [Cache.callEach, hcall, Option.map_some, Option.toList_some]
      rw [hrest, hown, hanswer]
      cases cache.get? key <;> rfl

/-! ### One key -/

/-- A caller and what of it is in flight. -/
def Awaits (caller : Caller α ε) (call : Call α ε) : Prop :=
  call.id = caller.id ∧ call.work.result = caller.work.result

/-- How matters stand with the callers of one key.  Without a value, those in flight are
the last of them, and all before have failed; with a value, it is that of the first who
did not fail, and nobody before or at that place is in flight. -/
inductive Standing (callers : List (Caller α ε)) (inFlight : List (Call α ε))
    (answers : List (Nat × Answer α ε)) : Option α → Prop where
  | unsettled {past waiting : List (Caller α ε)} (hcallers : callers = past ++ waiting)
      (hpast : ∀ caller ∈ past, caller.Fails) (hwaiting : List.Forall₂ Awaits waiting inFlight)
      (hanswers : ∀ answer ∈ answers, answer.1 ∈ callers.map Caller.id →
        answer ∈ oneByOne none past) :
      Standing callers inFlight answers none
  | settled {v : α} {past rest : List (Caller α ε)} {first : Caller α ε}
      (hcallers : callers = past ++ first :: rest)
      (hpast : ∀ caller ∈ past, caller.Fails) (hfirst : first.work.result = .ok v)
      (hwaiting : ∀ call ∈ inFlight, call.id ∈ rest.map Caller.id)
      (hanswers : ∀ answer ∈ answers, answer.1 ∈ callers.map Caller.id →
        answer ∈ oneByOne none callers) :
      Standing callers inFlight answers (some v)

section Standing

variable {callers : List (Caller α ε)} {inFlight : List (Call α ε)}
  {answers : List (Nat × Answer α ε)} {value : Option α}

theorem exists_of_awaits {waiting : List (Caller α ε)}
    (h : List.Forall₂ Awaits waiting inFlight) {call : Call α ε} (hcall : call ∈ inFlight) :
    call.id ∈ waiting.map Caller.id := by
  induction h with
  | nil => exact absurd hcall List.not_mem_nil
  | cons hhead _ ih =>
      rcases List.mem_cons.mp hcall with rfl | hcall
      · simp [hhead.1]
      · exact List.mem_cons_of_mem _ (ih hcall)

theorem Standing.id_mem (h : Standing callers inFlight answers value) {call : Call α ε}
    (hcall : call ∈ inFlight) : call.id ∈ callers.map Caller.id := by
  cases h with
  | unsettled hcallers _ hwaiting _ =>
      rw [hcallers, List.map_append]
      exact List.mem_append_right _ (exists_of_awaits hwaiting hcall)
  | settled hcallers _ _ hwaiting _ =>
      rw [hcallers, List.map_append, List.map_cons]
      exact List.mem_append_right _ (List.mem_cons_of_mem _ (hwaiting call hcall))

/-- What has been answered is what comes one by one. -/
theorem Standing.mem_oneByOne (h : Standing callers inFlight answers value)
    {answer : Nat × Answer α ε} (hanswer : answer ∈ answers)
    (hid : answer.1 ∈ callers.map Caller.id) : answer ∈ oneByOne none callers := by
  cases h with
  | unsettled hcallers hpast _ hanswers =>
      have hmem := hanswers answer hanswer hid
      rw [hcallers, oneByOne_append hpast]
      exact List.mem_append_left _ hmem
  | settled _ _ _ _ hanswers => exact hanswers answer hanswer hid

theorem Standing.join (h : Standing callers inFlight answers value) {caller : Caller α ε}
    {call : Call α ε} (hawaits : Awaits caller call)
    (hnew : ∀ answer ∈ answers, answer.1 ≠ caller.id) :
    Standing (callers ++ [caller]) (inFlight ++ [call]) answers value := by
  have hold : ∀ answer ∈ answers, answer.1 ∈ (callers ++ [caller]).map Caller.id →
      answer.1 ∈ callers.map Caller.id := by
    intro answer hanswer hid
    simpa [hnew answer hanswer] using hid
  cases h with
  | unsettled hcallers hpast hwaiting hanswers =>
      refine .unsettled (by rw [hcallers, List.append_assoc]) hpast
        (List.rel_append hwaiting (.cons hawaits .nil)) ?_
      exact fun answer hanswer hid => hanswers answer hanswer (hold answer hanswer hid)
  | settled hcallers hpast hfirst hwaiting hanswers =>
      refine .settled (by rw [hcallers, List.append_assoc, List.cons_append]) hpast hfirst ?_ ?_
      · intro other hother
        rw [List.mem_append, List.mem_singleton] at hother
        rcases hother with hother | rfl
        · simpa using Or.inl (by simpa using hwaiting other hother)
        · simp [hawaits.1]
      · intro answer hanswer hid
        have hmem := hanswers answer hanswer (hold answer hanswer hid)
        rw [hcallers, oneByOne_settled hpast hfirst] at hmem
        rw [hcallers, List.append_assoc, List.cons_append, oneByOne_settled hpast hfirst,
          List.map_append, ← List.cons_append, ← List.append_assoc]
        exact List.mem_append_left _ hmem

theorem Standing.pause (h : Standing callers inFlight answers value) {f : Call α ε → Call α ε}
    (hf : ∀ call ∈ inFlight, (f call).id = call.id ∧ (f call).work.result = call.work.result) :
    Standing callers (inFlight.map f) answers value := by
  cases h with
  | unsettled hcallers hpast hwaiting hanswers =>
      refine .unsettled hcallers hpast ?_ hanswers
      rw [List.forall₂_map_right_iff]
      clear hcallers
      induction hwaiting with
      | nil => exact .nil
      | cons hhead _ ih =>
          obtain ⟨hid, hresult⟩ := hf _ List.mem_cons_self
          refine .cons ⟨hid.trans hhead.1, hresult.trans hhead.2⟩ ?_
          exact ih fun call hcall => hf call (List.mem_cons_of_mem _ hcall)
  | settled hcallers hpast hfirst hwaiting hanswers =>
      refine .settled hcallers hpast hfirst ?_ hanswers
      intro later hlater
      obtain ⟨call, hcall, rfl⟩ := List.mem_map.mp hlater
      rw [(hf call hcall).1]
      exact hwaiting call hcall

/-- An answer to a caller of another key. -/
theorem Standing.answer_elsewhere (h : Standing callers inFlight answers value)
    {answer : Nat × Answer α ε} (hid : answer.1 ∉ callers.map Caller.id) :
    Standing callers inFlight (answers ++ [answer]) value := by
  have hold : ∀ other ∈ answers ++ [answer], other.1 ∈ callers.map Caller.id →
      other ∈ answers := by
    intro other hother hmem
    rcases List.mem_append.mp hother with hother | hother
    · exact hother
    · rw [List.mem_singleton.mp hother] at hmem
      exact absurd hmem hid
  cases h with
  | unsettled hcallers hpast hwaiting hanswers =>
      refine .unsettled hcallers hpast hwaiting ?_
      exact fun other hother hmem => hanswers other (hold other hother hmem) hmem
  | settled hcallers hpast hfirst hwaiting hanswers =>
      refine .settled hcallers hpast hfirst hwaiting ?_
      exact fun other hother hmem => hanswers other (hold other hother hmem) hmem

/-- A caller ends with the value that is there. -/
theorem Standing.served {v : α} (h : Standing callers inFlight answers (some v))
    {call : Call α ε} (hcall : call ∈ inFlight) :
    Standing callers (inFlight.filter fun other => other.id != call.id)
      (answers ++ [(call.id, ⟨.ok v, false⟩)]) (some v) := by
  cases h with
  | settled hcallers hpast hfirst hwaiting hanswers =>
      refine .settled hcallers hpast hfirst ?_ ?_
      · exact fun other hother => hwaiting other (List.mem_of_mem_filter hother)
      · intro answer hanswer hid
        rcases List.mem_append.mp hanswer with hanswer | hanswer
        · exact hanswers answer hanswer hid
        · obtain ⟨caller, hcaller, heq⟩ := List.mem_map.mp (hwaiting call hcall)
          rw [List.mem_singleton.mp hanswer, hcallers, oneByOne_settled hpast hfirst, ← heq]
          exact List.mem_append_right _ (List.mem_cons_of_mem _
            (List.mem_map.mpr ⟨caller, hcaller, rfl⟩))

/-- The first caller in flight constructs the value. -/
theorem Standing.constructs (h : Standing callers inFlight answers none) {call : Call α ε}
    (hhead : inFlight.head? = some call) {v : α} (hresult : call.work.result = .ok v) :
    Standing callers (inFlight.filter fun other => other.id != call.id)
      (answers ++ [(call.id, ⟨.ok v, true⟩)]) (some v) := by
  cases h with
  | unsettled hcallers hpast hwaiting hanswers =>
      cases hwaiting with
      | nil => simp at hhead
      | @cons first _ rest others hfirst hrest =>
          obtain rfl : _ = call := Option.some.inj hhead
          have hvalue := hfirst.2.symm.trans hresult
          refine .settled hcallers hpast hvalue ?_ ?_
          · intro other hother
            obtain ⟨hother, hne⟩ := List.mem_filter.mp hother
            rcases List.mem_cons.mp hother with rfl | hother
            · simp at hne
            · exact exists_of_awaits hrest hother
          · intro answer hanswer hid
            rw [hcallers, oneByOne_settled hpast hvalue]
            rcases List.mem_append.mp hanswer with hanswer | hanswer
            · exact List.mem_append_left _ (hanswers answer hanswer hid)
            · rw [List.mem_singleton.mp hanswer, hfirst.1]
              exact List.mem_append_right _ List.mem_cons_self

/-- Where nobody bears the number, nobody leaves. -/
theorem filter_id_ne {calls : List (Call α ε)} {id : Nat} (h : ∀ call ∈ calls, call.id ≠ id) :
    calls.filter (fun call => call.id != id) = calls := by
  rw [List.filter_eq_self]
  intro call hcall
  simpa using h call hcall

/-- The first caller in flight fails. -/
theorem Standing.fails (h : Standing callers inFlight answers none)
    (hnodup : (inFlight.map Call.id).Nodup) {call : Call α ε}
    (hhead : inFlight.head? = some call) {e : ε} (hresult : call.work.result = .error e) :
    Standing callers (inFlight.filter fun other => other.id != call.id)
      (answers ++ [(call.id, ⟨.error e, true⟩)]) none := by
  cases h with
  | @unsettled past _ hcallers hpast hwaiting hanswers =>
      cases hwaiting with
      | nil => simp at hhead
      | @cons first holder rest others hfirst hrest =>
          obtain rfl : holder = call := Option.some.inj hhead
          have hfails := hfirst.2.symm.trans hresult
          have hothers : ∀ other ∈ others, other.id ≠ holder.id := by
            intro other hother heq
            rw [List.map_cons, List.nodup_cons] at hnodup
            exact hnodup.1 (heq ▸ List.mem_map_of_mem hother)
          have hfilter : (holder :: others).filter (fun other => other.id != holder.id) =
              others := by
            rw [List.filter_cons_of_neg (by simp), filter_id_ne hothers]
          rw [hfilter]
          refine .unsettled (by rw [hcallers, List.append_cons]) ?_ hrest ?_
          · intro caller hcaller
            rcases List.mem_append.mp hcaller with hcaller | hcaller
            · exact hpast caller hcaller
            · exact List.mem_singleton.mp hcaller ▸ ⟨e, hfails⟩
          · intro answer hanswer hid
            rw [oneByOne_append hpast]
            rcases List.mem_append.mp hanswer with hanswer | hanswer
            · exact List.mem_append_left _ (hanswers answer hanswer hid)
            · rw [List.mem_singleton.mp hanswer, hfirst.1, oneByOne, hfails]
              exact List.mem_append_right _ List.mem_cons_self

theorem Awaits.filter {waiting : List (Caller α ε)} (h : List.Forall₂ Awaits waiting inFlight)
    (id : Nat) :
    List.Forall₂ Awaits (waiting.filter fun caller => caller.id != id)
      (inFlight.filter fun call => call.id != id) := by
  induction h with
  | nil => exact .nil
  | cons hhead _ ih =>
      simp only [List.filter_cons, hhead.1]
      split
      · exact .cons hhead ih
      · exact ih

/-- A caller in flight gives up, and counts as if it had never come. -/
theorem Standing.leave (h : Standing callers inFlight answers value)
    (hnodup : (callers.map Caller.id).Nodup) {call : Call α ε} (hcall : call ∈ inFlight) :
    Standing (callers.filter fun caller => caller.id != call.id)
      (inFlight.filter fun other => other.id != call.id) answers value := by
  have hkeep : ∀ {some rest : List (Caller α ε)}, callers = some ++ rest →
      call.id ∈ rest.map Caller.id → some.filter (fun caller => caller.id != call.id) = some := by
    intro some rest heq hrest
    rw [heq, List.map_append, List.nodup_append] at hnodup
    rw [List.filter_eq_self]
    intro caller hcaller
    have hne := hnodup.2.2 caller.id (List.mem_map_of_mem hcaller) call.id hrest
    simpa using hne
  have hold : ∀ answer : Nat × Answer α ε,
      answer.1 ∈ (callers.filter fun caller => caller.id != call.id).map Caller.id →
        answer.1 ∈ callers.map Caller.id ∧ answer.1 ≠ call.id := by
    intro answer hid
    obtain ⟨caller, hcaller, heq⟩ := List.mem_map.mp hid
    obtain ⟨hmem, hne⟩ := List.mem_filter.mp hcaller
    exact ⟨heq ▸ List.mem_map_of_mem hmem, by simpa [heq] using hne⟩
  cases h with
  | unsettled hcallers hpast hwaiting hanswers =>
      have hpastKept := hkeep hcallers (exists_of_awaits hwaiting hcall)
      refine .unsettled (by rw [hcallers, List.filter_append, hpastKept]) hpast
        (Awaits.filter hwaiting call.id) ?_
      exact fun answer hanswer hid => hanswers answer hanswer (hold answer hid).1
  | @settled v past rest first hcallers hpast hfirst hwaiting hanswers =>
      have hsplit : callers = (past ++ [first]) ++ rest := by simp [hcallers]
      have hkept := hkeep hsplit (hwaiting call hcall)
      have hfiltered : callers.filter (fun caller => caller.id != call.id) =
          past ++ first :: rest.filter fun caller => caller.id != call.id := by
        rw [hsplit, List.filter_append, hkept]
        simp
      refine .settled hfiltered hpast hfirst ?_ ?_
      · intro other hother
        obtain ⟨hother, hne⟩ := List.mem_filter.mp hother
        obtain ⟨caller, hcaller, heq⟩ := List.mem_map.mp (hwaiting other hother)
        exact List.mem_map.mpr ⟨caller, List.mem_filter.mpr ⟨hcaller, heq ▸ hne⟩, heq⟩
      · intro answer hanswer hid
        obtain ⟨hid, hne⟩ := hold answer hid
        have hmem := hanswers answer hanswer hid
        rw [hcallers, oneByOne_settled hpast hfirst, List.mem_append, List.mem_cons] at hmem
        rw [hfiltered, oneByOne_settled hpast hfirst, List.mem_append, List.mem_cons]
        rcases hmem with hmem | hmem | hmem
        · exact Or.inl hmem
        · exact Or.inr (Or.inl hmem)
        · obtain ⟨caller, hcaller, rfl⟩ := List.mem_map.mp hmem
          have hstays : caller ∈ rest.filter fun caller => caller.id != call.id :=
            List.mem_filter.mpr ⟨hcaller, by simpa using hne⟩
          exact Or.inr (Or.inr (List.mem_map.mpr ⟨caller, hstays, rfl⟩))

end Standing

end Cache

end Signpost
