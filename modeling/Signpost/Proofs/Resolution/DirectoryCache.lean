import Signpost.Proofs.Resolution.Course
import Signpost.Proofs.Resolution.Serving

/-!
What the handlers of directories are kept under.  However many resolutions are on their way,
every key is the path of a directory that may be served, with the handler for it; and what
one resolution adds, whether it succeeds or fails, are the directories of the definitions in
its course that come to a handler by themselves.
-/

namespace Signpost

/-- What may be kept under a key: the handler for the directory that the key spells, with the
lifetime that the mode sets. -/
structure ResolverOptions.Keeps (options : ResolverOptions) (key : String) (handler : Handler) :
    Prop where
  admits : options.Admits ⟨key⟩
  conduct : handler.conduct = .directory ⟨key⟩ options.mode.maxAge

theorem ResolverOptions.Admits.keeps {options : ResolverOptions} {base : Path}
    (h : options.Admits base) (number : Nat) :
    options.Keeps base.text ⟨number, .directory base options.mode.maxAge⟩ :=
  ⟨h, rfl⟩

namespace Shared

/-- Under every key is what may be kept there. -/
def Kept (options : ResolverOptions) (s : Shared) : Prop :=
  ∀ key handler, s.servers.get? key = some handler → options.Keeps key handler

variable {options : ResolverOptions} {s later : Shared}

theorem Kept.grows (h : s.Kept options)
    (hgrows : Grows options.Admits options.mode.maxAge s later) : later.Kept options := by
  intro key handler hget
  rcases hgrows key handler hget with hold | ⟨base, hbase, rfl, hconduct⟩
  · exact h key handler hold
  · exact ⟨hbase, hconduct⟩

/-- With nobody in line for them, the handlers kept are those that resolutions rely on. -/
theorem Kept.faithful (h : s.Kept options) (hsound : s.servers.Sound)
    (hidle : s.servers.calls = []) : s.Faithful options.mode.maxAge :=
  ⟨⟨hsound, hidle⟩, fun key handler hget => (h key handler hget).conduct⟩

/-- What is kept may be, and so may what those in line are going to make. -/
structure Stocked (options : ResolverOptions) (s : Shared) : Prop where
  kept : s.Kept options
  pending : ∀ call ∈ s.servers.calls, ∀ handler, call.work.result = .ok handler →
    options.Keeps call.key handler

theorem stocked_start (options : ResolverOptions) : start.Stocked options where
  kept := by simp [Kept, start, Cache.get?, Cache.empty]
  pending := by simp [start, Cache.empty]

theorem Stocked.skip (h : s.Stocked options) :
    { s with nextHandler := s.nextHandler + 1 }.Stocked options :=
  ⟨h.kept, h.pending⟩

theorem Stocked.join (h : s.Stocked options) (hsound : s.servers.Sound) {base : Path}
    (hbase : options.Admits base) (pauses number next : Nat) :
    Stocked options ⟨s.servers.join number base.text
      ⟨pauses, .ok ⟨number, .directory base options.mode.maxAge⟩⟩, next⟩ where
  kept := by
    intro key handler hget
    rw [hsound.get?_join] at hget
    exact h.kept key handler hget
  pending := by
    intro call hcall handler hresult
    rcases Cache.mem_calls_join.mp hcall with hcall | rfl
    · exact h.pending call hcall handler hresult
    · rw [← Except.ok.inj hresult]
      exact hbase.keeps number

theorem Stocked.poll (h : s.Stocked options) (hsound : s.servers.Sound) (id : Nat) :
    { s with servers := (s.servers.poll id).1 }.Stocked options where
  kept := by
    intro key handler hget
    rcases hsound.source_poll hget with hold | ⟨call, hcall, rfl, hresult, -⟩
    · exact h.kept key handler hold
    · exact h.pending call hcall handler hresult
  pending := by
    intro call hcall handler hresult
    obtain ⟨other, hother, -, hkey, hsame⟩ := hsound.came_poll hcall
    rw [← hkey]
    exact h.pending other hother handler (hsame.trans hresult)

theorem Stocked.abandon (h : s.Stocked options) (id : Nat) :
    { s with servers := s.servers.abandon id }.Stocked options where
  kept := by
    intro key handler hget
    rw [Cache.get?_abandon] at hget
    exact h.kept key handler hget
  pending call hcall := h.pending call (Cache.mem_calls_abandon hcall)

end Shared

/-! ### Many resolutions on their way -/

/-- What is left of a resolution has only directories served that may be. -/
def Flight.Serves (options : ResolverOptions) : Flight → Prop
  | going plan => plan.Serves options.Admits options.mode.maxAge
  | waiting _ _ next => ∀ handler, (next handler).Serves options.Admits options.mode.maxAge
  | dropped => True

/-- A definition begins to be resolved where a visitor has come upon it. -/
def Turn.Visited (options : ResolverOptions) : Turn → Prop
  | .begin scope _ =>
      ∃ v levels, Visitor.Serves options v ∧ scope = v.scope (Visitor.valueWithin levels)
  | _ => True

namespace Traffic

/-- What is kept may be, and all resolutions on their way leave it so. -/
structure Stocked (options : ResolverOptions) (t : Traffic) : Prop where
  shared : t.shared.Stocked options
  flights : ∀ flight ∈ t.flights, flight.Serves options

variable {options : ResolverOptions} {t : Traffic}

theorem stocked_start (options : ResolverOptions) : start.Stocked options :=
  ⟨Shared.stocked_start options, by simp [start]⟩

theorem Stocked.flights_set (h : t.Stocked options) (n : Nat) {flight : Flight}
    (hflight : flight.Serves options) :
    ∀ other ∈ t.flights.set n flight, other.Serves options := by
  intro other hother
  rcases List.mem_or_eq_of_mem_set hother with hold | rfl
  · exact h.flights other hold
  · exact hflight

/-- Whatever a resolution hears from the handlers, it goes on as before. -/
theorem Stocked.hear (h : t.Stocked options) (n number : Nat) (base : Path)
    {next : Handler → Errand}
    (hnext : ∀ handler, (next handler).Serves options.Admits options.mode.maxAge)
    {heard : Cache Handler Empty × Option (Answer Handler Empty)}
    (hheard : { t.shared with servers := heard.1 }.Stocked options) :
    (t.hear n number base next heard).Stocked options := by
  obtain ⟨servers, _ | ⟨_ | handler, ran⟩⟩ := heard
  · exact ⟨hheard, h.flights_set n hnext⟩
  · next e => exact e.elim
  · exact ⟨hheard, h.flights_set n (hnext handler)⟩

theorem Stocked.advance (h : t.Stocked options) (horderly : t.Orderly) (n : Nat) (disk : Disk)
    (pauses : Nat) : (t.advance n disk pauses).Stocked options := by
  unfold Traffic.advance
  split
  · next base maxAge next hflight =>
      cases h.flights _ (List.mem_of_getElem? hflight) with
      | serve hbase hnext =>
          have hsound := horderly.signed.sound
          have hjoined := h.shared.join hsound hbase pauses t.shared.nextHandler
            (t.shared.nextHandler + 1)
          have hlater : Stocked options { t with
              shared := { t.shared with nextHandler := t.shared.nextHandler + 1 } } :=
            ⟨h.shared.skip, h.flights⟩
          refine hlater.hear n _ base hnext ?_
          rw [Cache.arrive_eq_poll_join]
          exact hjoined.poll (horderly.join base options.mode.maxAge pauses).signed.sound _
  · next plan hother hflight =>
      cases h.flights _ (List.mem_of_getElem? hflight) with
      | done => exact ⟨h.shared, h.flights_set n .done⟩
      | confine hnext => exact ⟨h.shared, h.flights_set n (hnext disk)⟩
      | read hnext => exact ⟨h.shared, h.flights_set n (hnext _)⟩
      | @serve base next => exact (hother base _ next rfl).elim
      | make hnext => exact ⟨h.shared.skip, h.flights_set n (hnext _)⟩
      | exhausted => exact ⟨h.shared, h.flights_set n .exhausted⟩
  · next number base next hflight =>
      exact h.hear n number base (h.flights _ (List.mem_of_getElem? hflight))
        (h.shared.poll horderly.signed.sound number)
  · exact h

theorem Stocked.drop (h : t.Stocked options) (n : Nat) : (t.drop n).Stocked options := by
  unfold Traffic.drop
  split
  · exact ⟨h.shared.abandon _, h.flights_set n trivial⟩
  · exact h
  · exact ⟨h.shared, h.flights_set n trivial⟩
  · exact h

theorem Stocked.step (h : t.Stocked options) (horderly : t.Orderly) {turn : Turn}
    (hturn : turn.Visited options) : (t.step options turn).Stocked options := by
  cases turn with
  | begin scope d =>
      obtain ⟨v, levels, hv, rfl⟩ := hturn
      have hscope := hv.scope (Visitor.serves_valueWithin levels)
      refine ⟨h.shared, fun flight hflight => ?_⟩
      rcases List.mem_append.mp hflight with hflight | hflight
      · exact h.flights flight hflight
      · rw [List.mem_singleton.mp hflight]
        exact Resolver.serves_servedBase hscope d
  | advance n disk pauses => exact h.advance horderly n disk pauses
  | drop n => exact h.drop n

/-- Turn after turn, what is kept may be. -/
theorem stocked_run (options : ResolverOptions) {turns : List Turn}
    (hturns : ∀ turn ∈ turns, turn.Visited options) :
    (run options turns).Stocked options ∧ (run options turns).Orderly := by
  suffices h : ∀ t : Traffic, t.Stocked options ∧ t.Orderly →
      (turns.foldl (Traffic.step options) t).Stocked options ∧
        (turns.foldl (Traffic.step options) t).Orderly from
    h start ⟨stocked_start options, orderly_start⟩
  induction turns with
  | nil => exact fun _ ht => ht
  | cons turn rest ih =>
      obtain ⟨hturn, hrest⟩ := List.forall_mem_cons.mp hturns
      exact fun t ⟨hstocked, horderly⟩ =>
        ih hrest _ ⟨hstocked.step horderly hturn, horderly.step options turn⟩

end Traffic

/-! ### What one resolution adds -/

namespace Resolution

variable {options : ResolverOptions}

/-- A definition is resolved by the directory resolver in the course of a resolution. -/
def Visits (r : Resolution) (options : ResolverOptions) (v : Visitor) (d : Definition) : Prop :=
  ∃ task, (Visitor.start (.standard options) r.document r.environment).Begins r.inquiry task ∧
    Relation.ReflTransGen (Visitor.Calls options r.disk) task
      (.definition v (.directory options) d)

theorem snd_answer (r : Resolution) (options : ResolverOptions) (s : Shared) :
    (r.answer options s).2 = ((r.plan options).run r.disk s).2 := by
  unfold answer Resolving.answer
  split <;> next hrun => rw [hrun]

/-- A resolution leaves only what may be kept. -/
theorem kept_answer (r : Resolution) (hrooted : r.document.Rooted) {s : Shared}
    (hs : s.Kept options) (hfaithful : s.Faithful options.mode.maxAge) :
    (r.answer options s).2.Kept options := by
  have hserves : (r.plan options).Serves options :=
    Visitor.Serves.inquire ⟨hrooted, Resolver.serves_standard options⟩ r.inquiry
  rw [snd_answer]
  exact hs.grows (Plan.Serves.run hserves r.disk hfaithful).2

theorem alike (r : Resolution) (options : ResolverOptions) :
    Resolving.Alike options r.disk (Option Artifact)
      (Option.Rel (Artifact.Related (Handler.ServesAlike options r.disk))) (r.plan options)
      (r.plan options) :=
  (Resolving.respectful_alike options r.disk).inquireWithin (fun _ => .done (.error _)) .exhausted
    rfl r.inquiry

/-- The keys after a resolution are those before it and the directories of the definitions in its
course that come to a handler by themselves. -/
theorem contains_answer (r : Resolution) {s : Shared} (hs : s.Faithful options.mode.maxAge)
    (key : String) :
    (r.answer options s).2.servers.contains key = true ↔
      s.servers.contains key = true ∨ ∃ v d base, r.Visits options v d ∧
        v.Provides options r.disk d base ∧ base.text = key := by
  have hserved (base : Path) : base ∈ (r.plan options).served r.disk ↔
      ∃ task, (Visitor.start (.standard options) r.document r.environment).Begins r.inquiry task ∧
        Visitor.Yields options r.disk task base :=
    Visitor.mem_served_inquire rfl rfl rfl r.inquiry base
  rw [snd_answer]
  refine (Plan.Alike.contains_run (r.alike options) hs key).trans (or_congr_right ⟨?_, ?_⟩)
  · rintro ⟨base, hbase, hkey⟩
    obtain ⟨task, hbegins, v, d, hcourse, hprovides⟩ := (hserved base).mp hbase
    exact ⟨v, d, base, ⟨task, hbegins, hcourse⟩, hprovides, hkey⟩
  · rintro ⟨v, d, base, ⟨task, hbegins, hcourse⟩, hprovides, hkey⟩
    exact ⟨base, (hserved base).mpr ⟨task, hbegins, v, d, hcourse, hprovides⟩, hkey⟩

/-- One resolution after the other, what is kept may be, and is what they rely on. -/
theorem kept_foldl {past : List Resolution} (hpast : ∀ r ∈ past, r.document.Rooted) {s : Shared}
    (hs : s.Kept options) (hfaithful : s.Faithful options.mode.maxAge) :
    (past.foldl (fun s r => (r.answer options s).2) s).Kept options ∧
      (past.foldl (fun s r => (r.answer options s).2) s).Faithful options.mode.maxAge := by
  induction past generalizing s with
  | nil => exact ⟨hs, hfaithful⟩
  | cons r rest ih =>
      obtain ⟨hrooted, hrest⟩ := List.forall_mem_cons.mp hpast
      exact ih hrest (r.kept_answer hrooted hs hfaithful) (r.answer_of_faithful hfaithful).2.2.1

end Resolution

namespace Traffic

/-- The invariant of the handlers of directories.  However many resolutions are on their way, what
is kept under a key is the handler for the directory that the key spells, with the lifetime that
the mode sets, and the directory may be served.  Once nobody is in line it stays so, one whole
resolution after the other, and each of them adds, whether it succeeds or fails, exactly the
directories of the definitions in its course that come to a handler by themselves. -/
theorem directory_cache (options : ResolverOptions) (turns : List Turn)
    (hturns : ∀ turn ∈ turns, turn.Visited options) :
    let s := (run options turns).shared
    s.Kept options ∧
      (s.servers.calls = [] → ∀ past : List Resolution, (∀ r ∈ past, r.document.Rooted) →
        let before := past.foldl (fun s r => (r.answer options s).2) s
        before.Kept options ∧ ∀ (r : Resolution) (key : String),
          (r.answer options before).2.servers.contains key = true ↔
            before.servers.contains key = true ∨ ∃ v d base, r.Visits options v d ∧
              v.Provides options r.disk d base ∧ base.text = key) := by
  intro s
  obtain ⟨hstocked, horderly⟩ := stocked_run options hturns
  refine ⟨hstocked.shared.kept, fun hidle past hpast => ?_⟩
  have hfaithful := hstocked.shared.kept.faithful horderly.signed.sound hidle
  obtain ⟨hkept, hlast⟩ := Resolution.kept_foldl hpast hstocked.shared.kept hfaithful
  exact ⟨hkept, fun r key => r.contains_answer hlast key⟩

/-- The definition of a directory. -/
def servedAt (directory : Value) : Definition :=
  ⟨⟨"/srv/d"⟩, [("directory", directory)]⟩

/-- A directory definition is resolved, question by question. -/
def siteTurns : List Turn :=
  let v := Visitor.start (.standard ⟨.production, none⟩) ⟨⟨"/srv/d"⟩, ⟨⟨"/srv/d"⟩, []⟩⟩ ⟨[]⟩
  [.begin (v.scope (Visitor.valueWithin 1)) (servedAt (.string "a")),
    .advance 0 (.empty []) 0, .advance 0 (.empty []) 0]

/-- A directory definition for whose directory another one stands. -/
def nestedSite : Resolution where
  disk := .empty []
  document := ⟨⟨"/srv/d"⟩, ⟨⟨"/srv/d"⟩, []⟩⟩
  environment := ⟨[]⟩
  inquiry := .definition (servedAt (.definition (servedAt (.string "b"))))

/-- The outer definition fails, a handler being no text, and the inner one has added its directory
all the same. -/
theorem directory_cache_nested :
    (∀ turn ∈ siteTurns, turn.Visited ⟨.production, none⟩) ∧
      let s := (run ⟨.production, none⟩ siteTurns).shared
      s.Kept ⟨.production, none⟩ ∧ s.servers.contains "/srv/a" = true ∧
        (nestedSite.answer ⟨.production, none⟩ s).1 =
          .error (.invalidType "directory" "directory" "string" "handler") ∧
        ∃ v d base, nestedSite.Visits ⟨.production, none⟩ v d ∧
          v.Provides ⟨.production, none⟩ nestedSite.disk d base ∧ base.text = "/srv/b" := by
  have hturns : ∀ turn ∈ siteTurns, turn.Visited ⟨.production, none⟩ := by
    intro turn hturn
    simp only [siteTurns, List.mem_cons, List.not_mem_nil, or_false] at hturn
    rcases hturn with rfl | rfl | rfl
    · exact ⟨_, 1, ⟨.inl (by decide), Resolver.serves_standard _⟩, rfl⟩
    · trivial
    · trivial
  have hidle : (run ⟨.production, none⟩ siteTurns).shared.servers.calls.length = 0 := by cbv
  have hbefore : (run ⟨.production, none⟩ siteTurns).shared.servers.contains "/srv/b" = false := by
    cbv
  have hafter : (nestedSite.answer ⟨.production, none⟩
      (run ⟨.production, none⟩ siteTurns).shared).2.servers.contains "/srv/b" = true := by
    cbv
  obtain ⟨hkept, hrest⟩ := directory_cache ⟨.production, none⟩ siteTurns hturns
  obtain ⟨-, hkeys⟩ := hrest (List.eq_nil_of_length_eq_zero hidle) []
    fun _ hr => absurd hr List.not_mem_nil
  refine ⟨hturns, hkept, by cbv, by cbv, ?_⟩
  rcases (hkeys nestedSite "/srv/b").mp hafter with hold | hnew
  · exact absurd (hbefore.symm.trans hold) (by simp)
  · exact hnew

end Traffic

end Signpost
