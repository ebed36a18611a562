import Signpost.Proofs.Cache.Turns

/-!
A call that nothing comes between.  On a cache with nobody in flight it ends with the
value of its key if there is one, and as its own constructor does if there is none; the
other keys keep what they have.
-/

namespace Signpost

namespace Cache

variable {α ε : Type} {cache : Cache α ε}

/-- Nobody is in flight. -/
structure Settled (cache : Cache α ε) : Prop where
  sound : cache.Sound
  idle : cache.calls = []

theorem settled_empty (partition : String) : (empty partition : Cache α ε).Settled :=
  ⟨sound_empty partition, rfl⟩

/-- What a caller ends with that finds its key with this value, or with none. -/
def answerAlone : Option α → Work α ε → Answer α ε
  | some v, _ => ⟨.ok v, false⟩
  | none, work => ⟨work.result, true⟩

/-- What a call leaves behind that nothing comes between. -/
structure Completed (cache : Cache α ε) (key : String) (work : Work α ε) (next : Cache α ε)
    (answer : Answer α ε) : Prop where
  settled : next.Settled
  answer_eq : answer = answerAlone (cache.get? key) work
  get?_self : next.get? key = answer.result.toOption
  get?_of_ne : ∀ other, other ≠ key → next.get? other = cache.get? other

/-- An attempt by the only caller in flight, after which it has ended or there is one pause
less to come. -/
theorem Attempt.completed {call : Call α ε} {next : Cache α ε} {answer : Option (Answer α ε)}
    (hattempt : cache.Attempt call next answer) (h : cache.Sound) (honly : cache.calls = [call]) :
    (∃ given, answer = some given ∧ cache.Completed call.key call.work next given) ∨
      answer = none ∧ call.work.pauses ≠ 0 ∧ next = cache.giveWay call ∧ cache.HasTurn call := by
  have hcall : call ∈ cache.calls := by
    rw [honly]
    exact List.mem_singleton_self call
  have hsound := hattempt.sound h hcall
  have hidle : cache.calls.filter (fun other => other.id != call.id) = [] := by
    rw [honly]
    simp
  cases hattempt with
  | served hvalue =>
      refine Or.inl ⟨_, rfl, ⟨hsound, hidle⟩, ?_, hvalue, fun _ _ => rfl⟩
      rw [hvalue]
      rfl
  | waits hvalue hturn =>
      refine absurd ⟨hvalue, ?_⟩ hturn
      simp [inFlight, honly]
  | yields hturn hpauses => exact Or.inr ⟨rfl, hpauses, rfl, hturn⟩
  | constructs hturn hresult =>
      refine Or.inl ⟨_, rfl, ⟨hsound, hidle⟩, ?_, h.get?_fill_self hcall _,
        fun _ hother => h.get?_fill_of_ne hcall _ hother⟩
      rw [hturn.1, answerAlone, hresult]
  | fails hturn hresult =>
      have hget := h.get?_afterFailure hturn
      refine Or.inl ⟨_, rfl, ⟨hsound, (h.calls_afterFailure hturn).trans hidle⟩, ?_,
        (hget call.key).trans hturn.1, fun other _ => hget other⟩
      rw [hturn.1, answerAlone, hresult]

/-- The only caller in flight ends after its pauses. -/
theorem Sound.pollOut (h : cache.Sound) {call : Call α ε} (honly : cache.calls = [call])
    {pauses : Nat} (hpauses : call.work.pauses ≤ pauses) :
    ∃ next answer, cache.pollOut call.id (pauses + 1) = (next, some answer) ∧
      cache.Completed call.key call.work next answer := by
  have hfound : cache.call? call.id = some call := by simp [call?, honly]
  induction pauses generalizing cache call with
  | zero =>
      rcases (h.attempt hfound).completed h honly with
        ⟨given, hgiven, hcompleted⟩ | ⟨-, hleft, -, -⟩
      · refine ⟨(cache.poll call.id).1, given, ?_, hcompleted⟩
        rw [Cache.pollOut, ← Prod.eta (cache.poll call.id), hgiven]
      · omega
  | succ pauses ih =>
      rcases (h.attempt hfound).completed h honly with
        ⟨given, hgiven, hcompleted⟩ | ⟨hnone, hleft, hnext, hturn⟩
      · refine ⟨(cache.poll call.id).1, given, ?_, hcompleted⟩
        rw [Cache.pollOut, ← Prod.eta (cache.poll call.id), hgiven]
      · have hcalls : (cache.giveWay call).calls = [afterPause call call] := by
          rw [calls_giveWay, honly, List.map_singleton]
        have hself := afterPause_self call
        obtain ⟨last, answer, hlast, hcompleted⟩ := ih (h.giveWay hturn.mem) hcalls
          (by rw [hself]; dsimp only; omega) (by simp [call?, hcalls])
        rw [hself] at hlast hcompleted
        refine ⟨last, answer, ?_, hcompleted.settled, ?_, hcompleted.get?_self,
          hcompleted.get?_of_ne⟩
        · rw [Cache.pollOut, ← Prod.eta (cache.poll call.id), hnone, hnext]
          exact hlast
        · have hopen : (cache.giveWay call).get? call.key = none := hturn.1
          have hanswer := hcompleted.answer_eq
          rw [hopen] at hanswer
          rw [hanswer, hturn.1]
          rfl

theorem call_eq_pollOut (key : String) (work : Work α ε) :
    cache.call key work =
      (cache.join cache.freshId key work).pollOut cache.freshId (work.pauses + 1) := rfl

/-- A caller that comes to a cache with nobody in flight is alone there. -/
theorem Settled.join (h : cache.Settled) (id : Nat) (key : String) (work : Work α ε) :
    (cache.join id key work).Sound ∧
      (cache.join id key work).calls = [⟨id, key, (cache.cellOf key).1, work⟩] := by
  refine ⟨h.sound.join (by simp [h.idle]) key work, ?_⟩
  rw [calls_join, h.idle, List.nil_append]

theorem Settled.completed_of_join (h : cache.Settled) {id : Nat} {key : String}
    {work : Work α ε} {next : Cache α ε} {answer : Answer α ε}
    (hcompleted : (cache.join id key work).Completed key work next answer) :
    cache.Completed key work next answer where
  settled := hcompleted.settled
  answer_eq := by
    rw [← h.sound.get?_join id key work key]
    exact hcompleted.answer_eq
  get?_self := hcompleted.get?_self
  get?_of_ne := by
    intro other hother
    rw [← h.sound.get?_join id key work other]
    exact hcompleted.get?_of_ne other hother

/-- A call on a cache with nobody in flight ends. -/
theorem Settled.call (h : cache.Settled) (key : String) (work : Work α ε) :
    ∃ next answer, cache.call key work = (next, some answer) ∧
      cache.Completed key work next answer := by
  obtain ⟨hjoined, honly⟩ := h.join cache.freshId key work
  obtain ⟨next, answer, hout, hcompleted⟩ := hjoined.pollOut honly (Nat.le_refl _)
  exact ⟨next, answer, (call_eq_pollOut key work).trans hout, h.completed_of_join hcompleted⟩

/-- A caller that need not give way ends as it comes. -/
theorem Settled.arrive (h : cache.Settled) (id : Nat) (key : String) {work : Work α ε}
    (hpauses : work.pauses = 0) :
    ∃ next answer, cache.arrive id key work = (next, some answer) ∧
      cache.Completed key work next answer := by
  obtain ⟨hjoined, honly⟩ := h.join id key work
  have hfound : (cache.join id key work).call? id =
      some ⟨id, key, (cache.cellOf key).1, work⟩ := by simp [call?, honly]
  rcases (hjoined.attempt hfound).completed hjoined honly with
    ⟨given, hgiven, hcompleted⟩ | ⟨-, hleft, -, -⟩
  · exact ⟨_, given, Prod.ext rfl hgiven, h.completed_of_join hcompleted⟩
  · exact absurd hpauses hleft

theorem Completed.result_eq {key : String} {pauses : Nat} {make : α} {next : Cache α ε}
    {answer : Answer α ε} (h : cache.Completed key ⟨pauses, .ok make⟩ next answer) :
    answer.result = .ok ((cache.get? key).getD make) := by
  rw [h.answer_eq]
  cases cache.get? key <;> rfl

/-- A value asked for is the one that is there, or else the one given; it is there then, and
nothing else has changed. -/
theorem Settled.obtain (h : cache.Settled) (key : String) (make : α) :
    (cache.obtain key make).1 = (cache.get? key).getD make ∧
      (cache.obtain key make).2.Settled ∧
      (cache.obtain key make).2.get? key = some ((cache.get? key).getD make) ∧
      ∀ other, other ≠ key → (cache.obtain key make).2.get? other = cache.get? other := by
  obtain ⟨next, answer, hcall, hcompleted⟩ := h.call key ⟨0, .ok make⟩
  have hanswer := hcompleted.result_eq
  have hvalue : (cache.obtain key make) = ((cache.get? key).getD make, next) := by
    obtain ⟨result, ran⟩ := answer
    obtain rfl : result = _ := hanswer
    rw [Cache.obtain, hcall]
  rw [hvalue]
  refine ⟨rfl, hcompleted.settled, ?_, hcompleted.get?_of_ne⟩
  rw [hcompleted.get?_self, hanswer]
  rfl

end Cache

end Signpost
