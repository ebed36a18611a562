import Signpost.Proofs.Cache.Alone
import Signpost.Proofs.Cache.Values
import Signpost.Registry

/-!
One handler for a directory.  Any number of resolutions may be on their way, each going on
whenever its turn comes, waiting in line for a handler, or dropped; whatever they resolve,
two of them get one handler if their directories are spelled alike in normal form, and two
handlers if not.
-/

namespace Signpost

/-! ### The directory of a handler -/

namespace Resolver

/-- The directory that a definition names, which must stay within the root. -/
def baseOf (options : ResolverOptions) (scope : Scope) (d : Definition) : Resolving Path := do
  if !d.has "directory" then throw (.missingProperty "directory" d)
  let name ← requireString "directory" "directory" (← scope.upward d "directory")
  if isBlankText name then throw (.missingProperty "directory" d)
  Resolving.confine options.rootPath (scope.document.path.resolveAgainst name)

/-- The handler of a definition, and the directory it is for. -/
def servedBase (options : ResolverOptions) (scope : Scope) (d : Definition) :
    Resolving (Path × Handler) := do
  let base ← baseOf options scope d
  let handler ← Resolving.serve base options.mode.maxAge
  return (base, handler)

theorem directory_eq (options : ResolverOptions) (scope : Scope) (d : Definition) :
    (directory options).resolve scope d =
      (fun found => Artifact.handler found.2) <$> servedBase options scope d := by
  simp only [directory, servedBase, baseOf]
  split
  · rfl
  · simp only [map_eq_pure_bind, bind_assoc, pure_bind]
    refine bind_congr fun artifact => bind_congr fun name => ?_
    split
    · rfl
    · rfl

end Resolver

/-- What is left of a resolution that ends with a directory and its handler. -/
abbrev Errand := Plan (Except ResolveError (Path × Handler))

namespace Plan

/-- Whatever answers a plan is given, it ends with a directory and a handler only if that handler
has been given for that directory, here or before. -/
inductive Honest : List (Path × Handler) → Errand → Prop where
  | done {served : List (Path × Handler)} {result : Except ResolveError (Path × Handler)}
      (h : ∀ pair, result = .ok pair → pair ∈ served) : Honest served (.done result)
  | confine {served : List (Path × Handler)} {root : Option Path} {path : Path}
      {next : Except Escape Path → Errand} (h : ∀ answer, Honest served (next answer)) :
      Honest served (.confine root path next)
  | read {served : List (Path × Handler)} {path : Path}
      {next : Except IoError ByteArray → Errand} (h : ∀ answer, Honest served (next answer)) :
      Honest served (.read path next)
  | serve {served : List (Path × Handler)} {base : Path} {maxAge : Nat}
      {next : Handler → Errand}
      (h : ∀ handler, Honest (served ++ [(base, handler)]) (next handler)) :
      Honest served (.serve base maxAge next)
  | make {served : List (Path × Handler)} {conduct : Conduct} {next : Handler → Errand}
      (h : ∀ handler, Honest served (next handler)) : Honest served (.make conduct next)
  | exhausted {served : List (Path × Handler)} : Honest served .exhausted

theorem Honest.mono {served more : List (Path × Handler)} {plan : Errand}
    (h : Honest served plan) (hmore : ∀ pair ∈ served, pair ∈ more) : Honest more plan := by
  induction h generalizing more with
  | done hresult => exact .done fun pair hpair => hmore pair (hresult pair hpair)
  | confine _ ih => exact .confine fun answer => ih answer hmore
  | read _ ih => exact .read fun answer => ih answer hmore
  | serve _ ih =>
      refine .serve fun handler => ih handler fun pair hpair => ?_
      rcases List.mem_append.mp hpair with hpair | hpair
      · exact List.mem_append_left _ (hmore pair hpair)
      · exact List.mem_append_right _ hpair
  | make _ ih => exact .make fun handler => ih handler hmore
  | exhausted => exact .exhausted

/-- What comes first may ask what it likes. -/
theorem honest_bind {α : Type} {served : List (Path × Handler)} (p : Plan α)
    {f : α → Errand} (hf : ∀ a, Honest served (f a)) : Honest served (p.bind f) := by
  induction p generalizing served with
  | done a => exact hf a
  | confine root path next ih => exact .confine fun answer => ih answer hf
  | read path next ih => exact .read fun answer => ih answer hf
  | serve base maxAge next ih =>
      exact .serve fun handler => ih handler fun a =>
        (hf a).mono fun _ hpair => List.mem_append_left _ hpair
  | make conduct next ih => exact .make fun handler => ih handler hf
  | exhausted => exact .exhausted

theorem honest_servedBase (options : ResolverOptions) (scope : Scope) (d : Definition) :
    Honest [] (ExceptT.run (Resolver.servedBase options scope d)) := by
  refine honest_bind (ExceptT.run (Resolver.baseOf options scope d)) fun result => ?_
  cases result with
  | error e => exact .done fun pair hpair => absurd hpair (by simp)
  | ok base =>
      refine .serve fun handler => .done fun pair hpair => ?_
      rw [← Except.ok.inj hpair]
      exact List.mem_singleton_self _

end Plan

/-! ### Handlers by number -/

/-- Every handler bears the number of the caller whose constructor made it. -/
structure Shared.Signed (s : Shared) : Prop where
  sound : s.servers.Sound
  numbered : ∀ call ∈ s.servers.calls, call.id < s.nextHandler
  own : ∀ call ∈ s.servers.calls, ∀ handler, call.work.result = .ok handler →
    handler.id = call.id
  /-- Whose constructor has made a handler is no longer in flight. -/
  made : ∀ key handler, s.servers.get? key = some handler →
    handler.id < s.nextHandler ∧ ∀ call ∈ s.servers.calls, call.id ≠ handler.id
  apart : ∀ key other first second, s.servers.get? key = some first →
    s.servers.get? other = some second → first.id = second.id → key = other

namespace Shared

theorem signed_start : start.Signed where
  sound := Cache.sound_empty "directory"
  numbered := by simp [start, Cache.empty]
  own := by simp [start, Cache.empty]
  made := by simp [start, Cache.get?, Cache.empty]
  apart := by simp [start, Cache.get?, Cache.empty]

variable {s : Shared}

/-- A number is not used. -/
theorem Signed.skip (h : s.Signed) : { s with nextHandler := s.nextHandler + 1 }.Signed where
  sound := h.sound
  numbered call hcall := Nat.lt_succ_of_lt (h.numbered call hcall)
  own := h.own
  made key handler hget :=
    ⟨Nat.lt_succ_of_lt (h.made key handler hget).1, (h.made key handler hget).2⟩
  apart := h.apart

/-- The next caller comes, to make a handler that bears its number. -/
theorem Signed.join (h : s.Signed) (key : String) (pauses : Nat) (conduct : Conduct) :
    Signed ⟨s.servers.join s.nextHandler key ⟨pauses, .ok ⟨s.nextHandler, conduct⟩⟩,
      s.nextHandler + 1⟩ where
  sound := h.sound.join (fun call hcall => Nat.ne_of_lt (h.numbered call hcall)) key _
  numbered := by
    intro call hcall
    rcases Cache.mem_calls_join.mp hcall with hcall | rfl
    · exact Nat.lt_succ_of_lt (h.numbered call hcall)
    · exact Nat.lt_succ_self _
  own := by
    intro call hcall handler hresult
    rcases Cache.mem_calls_join.mp hcall with hcall | rfl
    · exact h.own call hcall handler hresult
    · rw [← Except.ok.inj hresult]
  made := by
    intro other handler hget
    rw [h.sound.get?_join] at hget
    obtain ⟨hlt, hgone⟩ := h.made other handler hget
    refine ⟨Nat.lt_succ_of_lt hlt, ?_⟩
    intro call hcall
    rcases Cache.mem_calls_join.mp hcall with hcall | rfl
    · exact hgone call hcall
    · exact Nat.ne_of_gt hlt
  apart := by
    intro first second one other hone hother
    rw [h.sound.get?_join] at hone hother
    exact h.apart first second one other hone hother

theorem Signed.poll (h : s.Signed) (id : Nat) :
    { s with servers := (s.servers.poll id).1 }.Signed where
  sound := h.sound.poll id
  numbered := by
    intro call hcall
    obtain ⟨other, hother, hid, -, -⟩ := h.sound.came_poll hcall
    exact hid ▸ h.numbered other hother
  own := by
    intro call hcall handler hresult
    obtain ⟨other, hother, hid, -, hsame⟩ := h.sound.came_poll hcall
    exact (h.own other hother handler (hsame.trans hresult)).trans hid
  made := by
    intro key handler hget
    rcases h.sound.source_poll hget with hold | ⟨maker, hmaker, -, hresult, hgone⟩
    · obtain ⟨hlt, hout⟩ := h.made key handler hold
      refine ⟨hlt, fun call hcall => ?_⟩
      obtain ⟨other, hother, hid, -, -⟩ := h.sound.came_poll hcall
      exact hid ▸ hout other hother
    · rw [h.own maker hmaker handler hresult]
      exact ⟨h.numbered maker hmaker, hgone⟩
  apart := by
    intro key other first second hfirst hsecond hid
    rcases h.sound.source_poll hfirst with hfirst | ⟨maker, hmaker, hkey, hresult, -⟩
    · rcases h.sound.source_poll hsecond with hsecond | ⟨maker, hmaker, -, hresult, -⟩
      · exact h.apart key other first second hfirst hsecond hid
      · have hown := h.own maker hmaker second hresult
        exact absurd (hown.symm.trans hid.symm) ((h.made key first hfirst).2 maker hmaker)
    · have hown := h.own maker hmaker first hresult
      rcases h.sound.source_poll hsecond with hsecond | ⟨its, hits, hitsKey, hitsResult, -⟩
      · exact absurd (hown.symm.trans hid) ((h.made other second hsecond).2 maker hmaker)
      · have hitsOwn := h.own its hits second hitsResult
        have hsame := h.sound.eq_of_id hmaker hits (hown.symm.trans (hid.trans hitsOwn))
        rw [← hkey, ← hitsKey, hsame]

theorem Signed.abandon (h : s.Signed) (id : Nat) :
    { s with servers := s.servers.abandon id }.Signed where
  sound := h.sound.abandon id
  numbered call hcall := h.numbered call (Cache.mem_calls_abandon hcall)
  own call hcall := h.own call (Cache.mem_calls_abandon hcall)
  made := by
    intro key handler hget
    rw [Cache.get?_abandon] at hget
    obtain ⟨hlt, hgone⟩ := h.made key handler hget
    exact ⟨hlt, fun call hcall => hgone call (Cache.mem_calls_abandon hcall)⟩
  apart := by
    intro key other first second hfirst hsecond
    rw [Cache.get?_abandon] at hfirst hsecond
    exact h.apart key other first second hfirst hsecond

end Shared

/-! ### Many resolutions on their way -/

/-- A resolution on its way. -/
inductive Flight where
  /-- With so much left to do. -/
  | going (plan : Errand)
  /-- In line, under a number, for the handler of a directory. -/
  | waiting (number : Nat) (base : Path) (next : Handler → Errand)
  | dropped

/-- Resolutions on their way, what they share, and which handler has been given for which
directory so far. -/
structure Traffic where
  shared : Shared
  flights : List Flight
  served : List (Path × Handler)

/-- What can happen: a definition begins to be resolved, a resolution goes on as far as its next
question, or it is dropped.  A constructor may give way some times. -/
inductive Turn where
  | begin (scope : Scope) (d : Definition)
  | advance (flight : Nat) (disk : Disk) (pauses : Nat)
  | drop (flight : Nat)

namespace Traffic

/-- Before the first resolution. -/
def start : Traffic := ⟨.start, [], []⟩

/-- A resolution hears from the handlers: it has its own, or it waits in line. -/
def hear (t : Traffic) (n number : Nat) (base : Path) (next : Handler → Errand) :
    Cache Handler Empty × Option (Answer Handler Empty) → Traffic
  | (servers, none) =>
      { t with shared := { t.shared with servers }
               flights := t.flights.set n (.waiting number base next) }
  | (servers, some ⟨.ok handler, _⟩) =>
      ⟨{ t.shared with servers }, t.flights.set n (.going (next handler)),
        t.served ++ [(base, handler)]⟩

/-- A resolution goes on. -/
def advance (t : Traffic) (n : Nat) (disk : Disk) (pauses : Nat) : Traffic :=
  match t.flights[n]? with
  | some (.going (.serve base maxAge next)) =>
      let number := t.shared.nextHandler
      let work := ⟨pauses, .ok ⟨number, .directory base maxAge⟩⟩
      { t with shared := { t.shared with nextHandler := number + 1 } }.hear n number base next
        (t.shared.servers.arrive number base.text work)
  | some (.going plan) =>
      let (plan, shared) := plan.advance disk t.shared
      { t with shared, flights := t.flights.set n (.going plan) }
  | some (.waiting number base next) =>
      t.hear n number base next (t.shared.servers.poll number)
  | _ => t

/-- A resolution is dropped, unless it has ended. -/
def drop (t : Traffic) (n : Nat) : Traffic :=
  match t.flights[n]? with
  | some (.waiting number _ _) =>
      { t with shared := { t.shared with servers := t.shared.servers.abandon number }
               flights := t.flights.set n .dropped }
  | some (.going (.done _)) => t
  | some (.going _) => { t with flights := t.flights.set n .dropped }
  | _ => t

/-- One turn, all definitions being resolved by the directory resolver with these options. -/
def step (options : ResolverOptions) (t : Traffic) : Turn → Traffic
  | .begin scope d =>
      { t with flights := t.flights ++
                 [.going (ExceptT.run (Resolver.servedBase options scope d))] }
  | .advance n disk pauses => t.advance n disk pauses
  | .drop n => t.drop n

/-- Turn after turn. -/
def run (options : ResolverOptions) (turns : List Turn) : Traffic :=
  turns.foldl (step options) start

end Traffic

/-- What is known of a resolution on its way: it will not end with a handler it has not been
given, and if it waits in line it does so for its own directory. -/
def Flight.Honest (served : List (Path × Handler)) (s : Shared) : Flight → Prop
  | going plan => plan.Honest served
  | waiting number base next =>
      (∀ handler, (next handler).Honest (served ++ [(base, handler)])) ∧
        number < s.nextHandler ∧
        ∀ call ∈ s.servers.calls, call.id = number → call.key = base.text
  | dropped => True

theorem Flight.Honest.mono {served more : List (Path × Handler)} {s later : Shared}
    {flight : Flight} (h : flight.Honest served s) (hmore : ∀ pair ∈ served, pair ∈ more)
    (hlt : s.nextHandler ≤ later.nextHandler)
    (hcalls : ∀ call ∈ later.servers.calls, call.id < s.nextHandler →
      ∃ other ∈ s.servers.calls, other.id = call.id ∧ other.key = call.key) :
    flight.Honest more later := by
  cases flight with
  | going plan => exact Plan.Honest.mono h hmore
  | waiting number base next =>
      obtain ⟨hnext, hnumber, hkey⟩ := h
      refine ⟨fun handler => (hnext handler).mono ?_, Nat.lt_of_lt_of_le hnumber hlt, ?_⟩
      · intro pair hpair
        rcases List.mem_append.mp hpair with hpair | hpair
        · exact List.mem_append_left _ (hmore pair hpair)
        · exact List.mem_append_right _ hpair
      · rintro call hcall rfl
        obtain ⟨other, hother, hid, hsame⟩ := hcalls call hcall hnumber
        exact hsame.symm.trans (hkey other hother hid)
  | dropped => trivial

/-- What holds at every moment: handlers are numbered by their makers, every handler given is the
one its directory has, and every resolution on its way is honest. -/
structure Traffic.Orderly (t : Traffic) : Prop where
  signed : t.shared.Signed
  served : ∀ pair ∈ t.served, t.shared.servers.get? pair.1.text = some pair.2
  honest : ∀ flight ∈ t.flights, flight.Honest t.served t.shared

namespace Traffic

theorem orderly_start : start.Orderly where
  signed := Shared.signed_start
  served := by simp [start]
  honest := by simp [start]

variable {t : Traffic}

/-- Flights stay honest when one of them changes and the others see no new callers of old
numbers. -/
theorem Orderly.honest_set (h : t.Orderly) {n : Nat} {flight : Flight}
    {more : List (Path × Handler)} {later : Shared} (hflight : flight.Honest more later)
    (hmore : ∀ pair ∈ t.served, pair ∈ more) (hlt : t.shared.nextHandler ≤ later.nextHandler)
    (hcalls : ∀ call ∈ later.servers.calls, call.id < t.shared.nextHandler →
      ∃ other ∈ t.shared.servers.calls, other.id = call.id ∧ other.key = call.key) :
    ∀ other ∈ t.flights.set n flight, other.Honest more later := by
  intro other hother
  rcases List.mem_or_eq_of_mem_set hother with hold | rfl
  · exact (h.honest other hold).mono hmore hlt hcalls
  · exact hflight

theorem Orderly.hear_poll (h : t.Orderly) {n number : Nat} {base : Path}
    {next : Handler → Errand}
    (hnext : ∀ handler, (next handler).Honest (t.served ++ [(base, handler)]))
    (hnumber : number < t.shared.nextHandler)
    (hkey : ∀ call ∈ t.shared.servers.calls, call.id = number → call.key = base.text) :
    (t.hear n number base next (t.shared.servers.poll number)).Orderly := by
  have hsigned := h.signed.poll number
  have hcame : ∀ call ∈ (t.shared.servers.poll number).1.calls,
      ∃ other ∈ t.shared.servers.calls, other.id = call.id ∧ other.key = call.key := by
    intro call hcall
    obtain ⟨other, hother, hid, hsame, -⟩ := h.signed.sound.came_poll hcall
    exact ⟨other, hother, hid, hsame⟩
  have hkeeps : ∀ pair ∈ t.served,
      (t.shared.servers.poll number).1.get? pair.1.text = some pair.2 :=
    fun pair hpair => h.signed.sound.keeps_poll number (h.served pair hpair)
  have hgives : ∀ v ran, (t.shared.servers.poll number).2 = some ⟨.ok v, ran⟩ →
      (t.shared.servers.poll number).1.get? base.text = some v := by
    intro v ran hanswer
    obtain ⟨call, hcall, hid, hget⟩ := h.signed.sound.gives_poll hanswer
    rwa [hkey call hcall hid] at hget
  generalize t.shared.servers.poll number = polled at hsigned hcame hkeeps hgives ⊢
  obtain ⟨servers, _ | ⟨_ | handler, ran⟩⟩ := polled
  · refine ⟨hsigned, hkeeps, h.honest_set ⟨hnext, hnumber, ?_⟩ (fun _ hpair => hpair)
      (Nat.le_refl _) fun call hcall _ => hcame call hcall⟩
    rintro call hcall rfl
    obtain ⟨other, hother, hid, hsame⟩ := hcame call hcall
    exact hsame.symm.trans (hkey other hother hid)
  · next e => exact e.elim
  · refine ⟨hsigned, ?_, h.honest_set (hnext handler) (fun _ hpair => List.mem_append_left _ hpair)
      (Nat.le_refl _) fun call hcall _ => hcame call hcall⟩
    intro pair hpair
    rcases List.mem_append.mp hpair with hpair | hpair
    · exact hkeeps pair hpair
    · rw [List.mem_singleton.mp hpair]
      exact hgives handler ran rfl

/-- The next caller comes to the handlers, and has not been polled yet. -/
theorem Orderly.join (h : t.Orderly) (base : Path) (maxAge pauses : Nat) :
    Orderly { t with shared := ⟨t.shared.servers.join t.shared.nextHandler base.text
        ⟨pauses, .ok ⟨t.shared.nextHandler, .directory base maxAge⟩⟩,
      t.shared.nextHandler + 1⟩ } where
  signed := h.signed.join base.text pauses (.directory base maxAge)
  served := by
    intro pair hpair
    rw [h.signed.sound.get?_join]
    exact h.served pair hpair
  honest := by
    intro flight hflight
    refine (h.honest flight hflight).mono (fun _ hpair => hpair) (Nat.le_succ _) ?_
    intro call hcall hlt
    rcases Cache.mem_calls_join.mp hcall with hcall | rfl
    · exact ⟨call, hcall, rfl, rfl⟩
    · exact absurd hlt (Nat.lt_irrefl _)

/-- A resolution that asks for a handler is told to wait in line, or has it. -/
theorem Orderly.hear_arrive (h : t.Orderly) {n : Nat} {base : Path} {next : Handler → Errand}
    (hnext : ∀ handler, (next handler).Honest (t.served ++ [(base, handler)]))
    (maxAge pauses : Nat) :
    ({ t with shared := { t.shared with nextHandler := t.shared.nextHandler + 1 } }.hear n
      t.shared.nextHandler base next
      (t.shared.servers.arrive t.shared.nextHandler base.text
        ⟨pauses, .ok ⟨t.shared.nextHandler, .directory base maxAge⟩⟩)).Orderly := by
  have hjoined := (h.join base maxAge pauses).hear_poll (n := n) hnext (Nat.lt_succ_self _) (by
    intro call hcall hid
    rcases Cache.mem_calls_join.mp hcall with hcall | rfl
    · exact absurd hid (Nat.ne_of_lt (h.signed.numbered call hcall))
    · rfl)
  rw [Cache.arrive_eq_poll_join]
  revert hjoined
  rcases Cache.poll _ t.shared.nextHandler with ⟨servers, _ | ⟨_ | handler, ran⟩⟩
  · exact id
  · next e => exact e.elim
  · exact id

theorem Orderly.advance (h : t.Orderly) (n : Nat) (disk : Disk) (pauses : Nat) :
    (t.advance n disk pauses).Orderly := by
  have hold : ∀ call ∈ t.shared.servers.calls, call.id < t.shared.nextHandler →
      ∃ other ∈ t.shared.servers.calls, other.id = call.id ∧ other.key = call.key :=
    fun call hcall _ => ⟨call, hcall, rfl, rfl⟩
  unfold Traffic.advance
  split
  · next base maxAge next hflight =>
      have hhonest := h.honest _ (List.mem_of_getElem? hflight)
      cases hhonest with
      | serve hnext => exact h.hear_arrive hnext maxAge pauses
  · next plan hother hflight =>
      have hhonest := h.honest _ (List.mem_of_getElem? hflight)
      have hset : ∀ later : Errand, later.Honest t.served →
          Orderly { t with flights := t.flights.set n (.going later) } := fun later hlater =>
        ⟨h.signed, h.served, h.honest_set hlater (fun _ hpair => hpair) (Nat.le_refl _) hold⟩
      cases hhonest with
      | done hresult => exact hset _ (.done hresult)
      | confine hnext => exact hset _ (hnext _)
      | read hnext => exact hset _ (hnext _)
      | @serve _ base maxAge next => exact (hother base maxAge next rfl).elim
      | make hnext =>
          exact ⟨h.signed.skip, h.served, h.honest_set (hnext _) (fun _ hpair => hpair)
            (Nat.le_succ _) hold⟩
      | exhausted => exact hset _ .exhausted
  · next number base next hflight =>
      obtain ⟨hnext, hnumber, hkey⟩ := h.honest _ (List.mem_of_getElem? hflight)
      exact h.hear_poll hnext hnumber hkey
  · exact h

theorem Orderly.drop (h : t.Orderly) (n : Nat) : (t.drop n).Orderly := by
  unfold Traffic.drop
  split
  · next number base next hflight =>
      refine ⟨h.signed.abandon number, ?_, h.honest_set trivial (fun _ hpair => hpair)
        (Nat.le_refl _) fun call hcall _ => ⟨call, Cache.mem_calls_abandon hcall, rfl, rfl⟩⟩
      intro pair hpair
      rw [Cache.get?_abandon]
      exact h.served pair hpair
  · exact h
  · exact ⟨h.signed, h.served, h.honest_set trivial (fun _ hpair => hpair) (Nat.le_refl _)
      fun call hcall _ => ⟨call, hcall, rfl, rfl⟩⟩
  · exact h

theorem Orderly.step (h : t.Orderly) (options : ResolverOptions) (turn : Turn) :
    (t.step options turn).Orderly := by
  cases turn with
  | begin scope d =>
      refine ⟨h.signed, h.served, ?_⟩
      intro flight hflight
      rcases List.mem_append.mp hflight with hflight | hflight
      · exact h.honest flight hflight
      · rw [List.mem_singleton.mp hflight]
        exact (Plan.honest_servedBase options scope d).mono fun _ hpair =>
          absurd hpair List.not_mem_nil
  | advance n disk pauses => exact h.advance n disk pauses
  | drop n => exact h.drop n

theorem Orderly.foldl (h : t.Orderly) (options : ResolverOptions) (turns : List Turn) :
    (turns.foldl (Traffic.step options) t).Orderly := by
  induction turns generalizing t with
  | nil => exact h
  | cons turn rest ih => exact ih (h.step options turn)

/-- Every resolution that ends with a handler has been given it for its directory, and of all that
have been given, by resolutions within other ones too, two are one handler if and only if their
directories are spelled alike. -/
theorem one_handler_per_directory (options : ResolverOptions) (turns : List Turn) :
    (∀ pair, .going (.done (.ok pair)) ∈ (run options turns).flights →
        pair ∈ (run options turns).served) ∧
      ∀ first ∈ (run options turns).served, ∀ second ∈ (run options turns).served,
        (first.2 = second.2 ↔ first.1.text = second.1.text) ∧
          (first.2.id = second.2.id ↔ first.1.text = second.1.text) := by
  have h : (run options turns).Orderly := orderly_start.foldl options turns
  refine ⟨?_, ?_⟩
  · intro pair hpair
    cases h.honest _ hpair with
    | done hresult => exact hresult pair rfl
  · intro first hfirst second hsecond
    have hone := h.served first hfirst
    have hother := h.served second hsecond
    have hsame : first.1.text = second.1.text → first.2 = second.2 := by
      intro htext
      rw [htext, hother] at hone
      exact (Option.some.inj hone).symm
    have happart : first.2.id = second.2.id → first.1.text = second.1.text :=
      h.signed.apart _ _ _ _ hone hother
    exact ⟨⟨fun heq => happart (congrArg Handler.id heq), hsame⟩,
      ⟨happart, fun htext => congrArg Handler.id (hsame htext)⟩⟩

end Traffic

end Signpost
