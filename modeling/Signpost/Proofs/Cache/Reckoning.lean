import Signpost.Proofs.Cache.Order

/-!
The callers of all keys.  How matters stand with each key is kept up by every event: by
one for its own callers, and by those for the callers of other keys, which it does not
notice.
-/

namespace Signpost

namespace Cache

variable {α ε : Type} {cache : Cache α ε}

/-- The callers that have come and not given up, after one more event. -/
def enroll (cache : Cache α ε) (callers : List (Caller α ε)) : Event α ε → List (Caller α ε)
  | .arrive id key work => callers ++ [⟨id, key, work⟩]
  | .poll _ => callers
  | .abandon id =>
      if (cache.call? id).isSome then callers.filter fun caller => caller.id != id else callers

/-- The callers of one key, in the order in which they came. -/
def callersOf (callers : List (Caller α ε)) (key : String) : List (Caller α ε) :=
  callers.filter fun caller => caller.key == key

/-- How matters stand with all keys of a cache. -/
structure Reckoned (cache : Cache α ε) (callers : List (Caller α ε))
    (answers : List (Nat × Answer α ε)) : Prop where
  sound : cache.Sound
  ids_nodup : (callers.map Caller.id).Nodup
  /-- Whoever has been answered has not given up, and is no longer in flight. -/
  ended : ∀ answer ∈ answers, answer.1 ∈ callers.map Caller.id ∧
    ∀ call ∈ cache.calls, call.id ≠ answer.1
  standing : ∀ key, Standing (callersOf callers key) (cache.inFlight key) answers (cache.get? key)

theorem reckoned_empty (partition : String) :
    (empty partition : Cache α ε).Reckoned [] [] where
  sound := sound_empty partition
  ids_nodup := List.nodup_nil
  ended := by simp
  standing := by
    intro key
    exact .unsettled (List.append_nil []).symm (by simp) .nil (by simp)

section Reckoned

variable {callers : List (Caller α ε)} {answers : List (Nat × Answer α ε)}

theorem id_mem_of_callersOf {key : String} {id : Nat}
    (h : id ∈ (callersOf callers key).map Caller.id) : id ∈ callers.map Caller.id := by
  obtain ⟨caller, hcaller, rfl⟩ := List.mem_map.mp h
  exact List.mem_map_of_mem (List.mem_of_mem_filter hcaller)

theorem Reckoned.nodup_callersOf (h : cache.Reckoned callers answers) (key : String) :
    ((callersOf callers key).map Caller.id).Nodup :=
  h.ids_nodup.sublist (List.filter_sublist.map Caller.id)

/-- The callers in flight are among those that have come. -/
theorem Reckoned.id_mem (h : cache.Reckoned callers answers) {call : Call α ε}
    (hcall : call ∈ cache.calls) : call.id ∈ (callersOf callers call.key).map Caller.id :=
  (h.standing call.key).id_mem (mem_inFlight.mpr ⟨hcall, rfl⟩)

/-- A caller in flight came for one key only. -/
theorem Reckoned.id_not_mem (h : cache.Reckoned callers answers) {call : Call α ε}
    (hcall : call ∈ cache.calls) {key : String} (hkey : key ≠ call.key) :
    call.id ∉ (callersOf callers key).map Caller.id := by
  intro hid
  obtain ⟨first, hfirst, hfirstId⟩ := List.mem_map.mp (h.id_mem hcall)
  obtain ⟨second, hsecond, hsecondId⟩ := List.mem_map.mp hid
  obtain ⟨hfirst, hfirstKey⟩ := List.mem_filter.mp hfirst
  obtain ⟨hsecond, hsecondKey⟩ := List.mem_filter.mp hsecond
  have heq := List.inj_on_of_nodup_map h.ids_nodup hfirst hsecond (hfirstId.trans hsecondId.symm)
  rw [← heq] at hsecondKey
  exact hkey ((beq_iff_eq.mp hsecondKey).symm.trans (beq_iff_eq.mp hfirstKey))

theorem Reckoned.join (h : cache.Reckoned callers answers) {id : Nat}
    (hnew : id ∉ callers.map Caller.id) (key : String) (work : Work α ε) :
    (cache.join id key work).Reckoned (callers ++ [⟨id, key, work⟩]) answers where
  sound := by
    apply h.sound.join
    rintro call hcall rfl
    exact hnew (id_mem_of_callersOf (h.id_mem hcall))
  ids_nodup := by
    rw [List.map_append, List.nodup_append]
    refine ⟨h.ids_nodup, by simp, ?_⟩
    intro first hfirst second hsecond heq
    rw [List.map_singleton, List.mem_singleton] at hsecond
    have hid : first = id := heq.trans hsecond
    exact hnew (hid ▸ hfirst)
  ended := by
    intro answer hanswer
    obtain ⟨hid, hgone⟩ := h.ended answer hanswer
    refine ⟨by rw [List.map_append]; exact List.mem_append_left _ hid, ?_⟩
    intro call hcall
    rcases mem_calls_join.mp hcall with hcall | rfl
    · exact hgone call hcall
    · rintro rfl
      exact hnew hid
  standing := by
    intro other
    rw [h.sound.get?_join, callersOf, inFlight, calls_join, List.filter_append, List.filter_append]
    change Standing (callersOf callers other ++ _) (cache.inFlight other ++ _) _ _
    by_cases hkey : key = other
    · subst hkey
      have hawaits : Awaits (⟨id, key, work⟩ : Caller α ε) ⟨id, key, (cache.cellOf key).1, work⟩ :=
        ⟨rfl, rfl⟩
      have hjoined := (h.standing key).join hawaits (by
        rintro answer hanswer rfl
        exact hnew (h.ended answer hanswer).1)
      simpa using hjoined
    · simpa [hkey] using h.standing other

/-- A caller leaves: the other keys do not notice. -/
theorem Sound.inFlight_of_ne (h : cache.Sound) {call : Call α ε}
    (hcall : call ∈ cache.calls) {next : Cache α ε}
    (hcalls : next.calls = cache.calls.filter fun other => other.id != call.id) {key : String}
    (hkey : key ≠ call.key) : next.inFlight key = cache.inFlight key := by
  rw [inFlight_of_calls_eq hcalls, filter_id_ne]
  intro other hother hid
  obtain ⟨hmem, hother⟩ := mem_inFlight.mp hother
  rw [h.eq_of_id hmem hcall hid] at hother
  exact hkey hother.symm

/-- A caller comes to its end. -/
theorem Reckoned.answered (h : cache.Reckoned callers answers) {call : Call α ε}
    (hcall : call ∈ cache.calls) {next : Cache α ε} (hsound : next.Sound)
    (hcalls : next.calls = cache.calls.filter fun other => other.id != call.id)
    (hget : ∀ key, key ≠ call.key → next.get? key = cache.get? key) {answer : Answer α ε}
    (hown : Standing (callersOf callers call.key)
      ((cache.inFlight call.key).filter fun other => other.id != call.id)
      (answers ++ [(call.id, answer)]) (next.get? call.key)) :
    next.Reckoned callers (answers ++ [(call.id, answer)]) where
  sound := hsound
  ids_nodup := h.ids_nodup
  ended := by
    intro other hother
    rcases List.mem_append.mp hother with hother | hother
    · obtain ⟨hid, hgone⟩ := h.ended other hother
      refine ⟨hid, fun later hlater => hgone later ?_⟩
      rw [hcalls] at hlater
      exact List.mem_of_mem_filter hlater
    · rw [List.mem_singleton.mp hother]
      refine ⟨id_mem_of_callersOf (h.id_mem hcall), ?_⟩
      intro later hlater
      rw [hcalls] at hlater
      simpa using (List.mem_filter.mp hlater).2
  standing := by
    intro key
    by_cases hkey : key = call.key
    · subst hkey
      rw [inFlight_of_calls_eq hcalls]
      exact hown
    · rw [h.sound.inFlight_of_ne hcall hcalls hkey, hget key hkey]
      exact (h.standing key).answer_elsewhere (h.id_not_mem hcall hkey)

theorem Reckoned.attempt (h : cache.Reckoned callers answers) {call : Call α ε}
    (hcall : call ∈ cache.calls) {next : Cache α ε} {answer : Option (Answer α ε)}
    (hattempt : cache.Attempt call next answer) :
    next.Reckoned callers (answers ++ (answer.map (call.id, ·)).toList) := by
  have hsound := hattempt.sound h.sound hcall
  have hmem : call ∈ cache.inFlight call.key := mem_inFlight.mpr ⟨hcall, rfl⟩
  have hown := h.standing call.key
  cases hattempt with
  | served hvalue =>
      rw [hvalue] at hown
      refine h.answered hcall hsound rfl (fun _ _ => rfl) ?_
      change Standing _ _ _ (cache.get? call.key)
      rw [hvalue]
      exact hown.served hmem
  | waits => simpa using h
  | yields =>
      simp only [Option.map_none, Option.toList_none, List.append_nil]
      refine ⟨hsound, h.ids_nodup, ?_, ?_⟩
      · intro given hgiven
        obtain ⟨hid, hgone⟩ := h.ended given hgiven
        refine ⟨hid, ?_⟩
        intro later hlater
        rw [calls_giveWay] at hlater
        obtain ⟨other, hother, rfl⟩ := List.mem_map.mp hlater
        rw [(h.sound.afterPause_same hcall hother).1]
        exact hgone other hother
      · intro key
        rw [h.sound.inFlight_giveWay hcall]
        apply (h.standing key).pause
        intro other hother
        obtain ⟨hid, -, -, hresult⟩ := h.sound.afterPause_same hcall (mem_inFlight.mp hother).1
        exact ⟨hid, hresult⟩
  | constructs hturn hresult =>
      rw [hturn.1] at hown
      refine h.answered hcall hsound rfl (fun key hkey => h.sound.get?_fill_of_ne hcall _ hkey) ?_
      rw [h.sound.get?_fill_self hcall]
      exact hown.constructs hturn.2 hresult
  | fails hturn hresult =>
      have hget := h.sound.get?_afterFailure hturn
      rw [hturn.1] at hown
      refine h.answered hcall hsound (h.sound.calls_afterFailure hturn) (fun key _ => hget key) ?_
      rw [hget, hturn.1]
      exact hown.fails (h.sound.ids_nodup.sublist (List.filter_sublist.map Call.id)) hturn.2 hresult

theorem Reckoned.poll (h : cache.Reckoned callers answers) (id : Nat) :
    (cache.poll id).1.Reckoned callers
      (answers ++ ((cache.poll id).2.map (id, ·)).toList) := by
  cases hcall : cache.call? id with
  | none =>
      rw [poll_of_call?_eq_none hcall]
      simpa using h
  | some call =>
      obtain ⟨hmem, rfl⟩ := mem_of_call? hcall
      exact h.attempt hmem (h.sound.attempt hcall)

theorem Reckoned.abandon (h : cache.Reckoned callers answers) (id : Nat) :
    (cache.abandon id).Reckoned (cache.enroll callers (.abandon id)) answers := by
  cases hcall : cache.call? id with
  | none => simpa [Cache.abandon, enroll, hcall] using h
  | some call =>
      obtain ⟨hmem, rfl⟩ := mem_of_call? hcall
      simp only [Cache.abandon, enroll, hcall, Option.isSome_some, ↓reduceIte]
      have hgone : ∀ given ∈ answers, given.1 ≠ call.id := by
        rintro given hgiven heq
        exact (h.ended given hgiven).2 call hmem heq.symm
      refine ⟨h.sound.leave_line hmem, h.ids_nodup.sublist (List.filter_sublist.map Caller.id),
        ?_, ?_⟩
      · intro given hgiven
        obtain ⟨hid, hout⟩ := h.ended given hgiven
        obtain ⟨caller, hcaller, heq⟩ := List.mem_map.mp hid
        refine ⟨List.mem_map.mpr ⟨caller, List.mem_filter.mpr ⟨hcaller, ?_⟩, heq⟩, ?_⟩
        · simpa [heq] using hgone given hgiven
        · exact fun later hlater => hout later (List.mem_of_mem_filter hlater)
      · intro key
        have hcallers : callersOf (callers.filter fun caller => caller.id != call.id) key =
            (callersOf callers key).filter fun caller => caller.id != call.id := by
          simp [callersOf, List.filter_filter, Bool.and_comm]
        rw [get?_leave, hcallers]
        by_cases hkey : key = call.key
        · subst hkey
          rw [inFlight_of_calls_eq rfl]
          exact (h.standing call.key).leave (h.nodup_callersOf call.key)
            (mem_inFlight.mpr ⟨hmem, rfl⟩)
        · have hothers : (callersOf callers key).filter (fun caller => caller.id != call.id) =
              callersOf callers key := by
            rw [List.filter_eq_self]
            intro caller hcaller
            have hne : caller.id ≠ call.id := by
              intro heq
              exact h.id_not_mem hmem hkey (heq ▸ List.mem_map_of_mem hcaller)
            simpa using hne
          rw [h.sound.inFlight_of_ne hmem rfl hkey, hothers]
          exact h.standing key

theorem Reckoned.fresh (h : cache.Reckoned callers answers) {event : Event α ε}
    (hnew : ∀ id, event.comer? = some id → id ∉ callers.map Caller.id) : cache.Fresh event := by
  rintro id hcomer call hcall rfl
  exact hnew call.id hcomer (id_mem_of_callersOf (h.id_mem hcall))

theorem Reckoned.step (h : cache.Reckoned callers answers) {event : Event α ε}
    (hnew : ∀ id, event.comer? = some id → id ∉ callers.map Caller.id) :
    (cache.step event).1.Reckoned (cache.enroll callers event)
      (answers ++ (cache.step event).2.toList) := by
  cases event with
  | arrive id key work => exact (h.join (hnew id rfl) key work).poll id
  | poll id => exact h.poll id
  | abandon id =>
      rw [Cache.step, Option.toList_none, List.append_nil]
      exact h.abandon id

/-- Nobody is on the list who was not before, the caller that comes apart. -/
theorem mem_enroll {event : Event α ε} {caller : Caller α ε}
    (h : caller ∈ cache.enroll callers event) :
    caller ∈ callers ∨ event = .arrive caller.id caller.key caller.work := by
  cases event with
  | arrive id key work =>
      rw [enroll, List.mem_append, List.mem_singleton] at h
      rcases h with h | rfl
      · exact Or.inl h
      · exact Or.inr rfl
  | poll id => exact Or.inl h
  | abandon id =>
      unfold enroll at h
      dsimp only at h
      split at h
      · exact Or.inl (List.mem_of_mem_filter h)
      · exact Or.inl h

end Reckoned

end Cache

end Signpost
