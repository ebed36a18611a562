import Signpost.Proofs.Resolution.Steady
import Signpost.Proofs.Server.Freshness

/-!
Starting up once and for all.  Where the resolution of the entry does not look at the disk, the
handler that a server comes by when it starts is the one that it comes by for every request,
and what becomes of the files meanwhile matters to what the handler serves only.
-/

namespace Signpost

namespace Resolving

variable {α : Type} {p : Resolving α} {disk : Disk} {s next : Shared} {a : α}

theorem answer_of_run (h : (p.run disk s).1 = some (.ok a)) :
    p.answer disk s = (.ok a, (p.run disk s).2) := by
  unfold answer
  generalize p.run disk s = run at h ⊢
  obtain ⟨result, last⟩ := run
  obtain rfl : result = some (.ok a) := h
  rfl

theorem run_of_answer (h : p.answer disk s = (.ok a, next)) :
    p.run disk s = (some (.ok a), next) := by
  unfold answer at h
  generalize p.run disk s = run at h ⊢
  obtain ⟨_ | result, last⟩ := run
  · simp at h
  · obtain ⟨rfl, rfl⟩ := Prod.mk.inj h
    rfl

end Resolving

namespace Server

variable {s : Server} {handler : Handler}

/-- How a server resolves its entry. -/
def entryPlan (s : Server) : Resolving Handler :=
  s.service.handlerPlan s.settings.definition.entry

theorem resolveEntry_eq (s : Server) (disk : Disk) :
    s.resolveEntry disk = ((s.entryPlan.answer disk s.shared).1,
      { s with shared := (s.entryPlan.answer disk s.shared).2 }) := rfl

/-- A server that has come by a handler in a way that does not depend on the disk, and has kept
what was left then. -/
structure Steadfast (s : Server) (handler : Handler) : Prop where
  steady : Resolving.Steady Handler Eq s.entryPlan s.entryPlan
  came : ∃ disk first left, first.servers.Settled ∧
    s.entryPlan.run disk first = (some (.ok handler), left) ∧ s.shared.Recalls left

theorem Steadfast.run_eq (h : s.Steadfast handler) (now : Disk) :
    (s.entryPlan.run now s.shared).1 = some (.ok handler) := by
  obtain ⟨disk, first, left, hsettled, hrun, hrecalls⟩ := h.came
  have hleft : s.shared.Recalls (s.entryPlan.run disk first).2 := by rwa [hrun]
  have hagain : (s.entryPlan.run now s.shared).1 = (s.entryPlan.run disk first).1 :=
    Plan.Steady.run_again h.steady disk now hsettled hleft
  rw [hagain, hrun]

/-- On whatever disk, the entry comes to the same handler again, and so it will after that. -/
theorem Steadfast.resolveEntry (h : s.Steadfast handler) (now : Disk) :
    (s.resolveEntry now).1 = .ok handler ∧ (s.resolveEntry now).2.Steadfast handler := by
  have hanswer := Resolving.answer_of_run (h.run_eq now)
  constructor
  · exact congrArg Prod.fst hanswer
  · obtain ⟨disk, first, left, hsettled, hrun, hrecalls⟩ := h.came
    have hkept : (s.entryPlan.run now s.shared).2.Recalls s.shared :=
      Plan.recalls_run _ now hrecalls.settled
    have hnext : (s.resolveEntry now).2.shared = (s.entryPlan.run now s.shared).2 :=
      congrArg Prod.snd hanswer
    refine ⟨h.steady, disk, first, left, hsettled, hrun, ?_⟩
    rw [hnext]
    exact hkept.trans hrecalls

theorem Steadfast.dispatch (h : s.Steadfast handler) (now : Disk) (request : Request) :
    (s.dispatch now request).1 = answer (handler.handle now request) ∧
      (s.dispatch now request).2.Steadfast handler := by
  obtain ⟨hresult, hnext⟩ := h.resolveEntry now
  unfold Server.dispatch
  generalize s.resolveEntry now = resolved at hresult hnext ⊢
  obtain ⟨result, next⟩ := resolved
  obtain rfl : result = .ok handler := hresult
  exact ⟨rfl, hnext⟩

/-- It answers any number of requests by that handler. -/
theorem Steadfast.dispatchAll (h : s.Steadfast handler) (visits : List (Disk × Request)) :
    (s.dispatchAll visits).1 =
        visits.map (fun visit => answer (handler.handle visit.1 visit.2)) ∧
      (s.dispatchAll visits).2.Steadfast handler := by
  induction visits generalizing s with
  | nil => exact ⟨rfl, h⟩
  | cons visit rest ih =>
      obtain ⟨now, request⟩ := visit
      obtain ⟨hresponse, hnext⟩ := h.dispatch now request
      obtain ⟨hresponses, hlast⟩ := ih hnext
      constructor
      · rw [List.map_cons, ← hresponses, ← hresponse]
        rfl
      · exact hlast

variable {settings : Settings} {document : Document} {environment : Environment} {before : Disk}

/-- The server of a document before it has started. -/
def unstarted (settings : Settings) (document : Document) (environment : Environment) : Server :=
  ⟨settings, ⟨document, .standard (resolverOptions settings), environment⟩, .start⟩

theorem resolveEntry_unstarted (hs : ofDocument settings document environment before = .ok s) :
    ∃ handler, (unstarted settings document environment).resolveEntry before =
      (.ok handler, s) := by
  unfold ofDocument start at hs
  split at hs
  · next handler next heq =>
      obtain rfl := Except.ok.inj hs
      exact ⟨handler, heq⟩
  · contradiction

/-- A server that need not stay within a root, and from whose entry no file definition can be
reached, is steadfast from its start. -/
theorem steadfast_of_start (hroot : settings.rootPath = none)
    (hfree : document.FileFree (.reference (.property settings.definition.entry)))
    (hstart : (unstarted settings document environment).resolveEntry before = (.ok handler, s)) :
    s.Steadfast handler := by
  have hunrooted : (resolverOptions settings).rootPath = none := hroot
  have hsteady : Resolving.Steady Handler Eq (unstarted settings document environment).entryPlan
      (unstarted settings document environment).entryPlan :=
    Service.steady_handlerPlan hunrooted rfl hfree
  have hsettled : Shared.start.servers.Settled := Cache.settled_empty "directory"
  rw [resolveEntry_eq] at hstart
  obtain ⟨hresult, rfl⟩ := Prod.mk.inj hstart
  have hrun : (unstarted settings document environment).entryPlan.run before .start =
      (some (.ok handler), _) :=
    Resolving.run_of_answer (Prod.ext hresult rfl)
  have hleft : ((unstarted settings document environment).entryPlan.run before
      .start).2.servers.Settled := (Plan.recalls_run _ before hsettled).settled
  rw [hrun] at hleft
  exact ⟨hsteady, before, .start, _, hsettled, hrun, .refl hleft⟩

/-- Where no root is set, and no file definition can be reached from the entry, the start of a
server settles which handler it has: whatever becomes of the disk and whatever requests come,
the entry comes to that one, and every request is answered by it. -/
theorem start_settles_handler (hroot : settings.rootPath = none)
    (hs : ofDocument settings document environment before = .ok s)
    (hfree : document.FileFree (.reference (.property settings.definition.entry))) :
    ∃ handler, (unstarted settings document environment).resolveEntry before = (.ok handler, s) ∧
      ∀ visits : List (Disk × Request),
        (∀ now, ((s.dispatchAll visits).2.resolveEntry now).1 = .ok handler) ∧
          (s.dispatchAll visits).1 =
            visits.map fun visit => answer (handler.handle visit.1 visit.2) := by
  obtain ⟨handler, hstart⟩ := resolveEntry_unstarted hs
  have hsteadfast := steadfast_of_start hroot hfree hstart
  refine ⟨handler, hstart, fun visits => ?_⟩
  obtain ⟨hresponses, hlast⟩ := hsteadfast.dispatchAll visits
  exact ⟨fun now => (hlast.resolveEntry now).1, hresponses⟩

theorem fileFree_site : site.FileFree (.reference (.property "app")) := by
  apply Document.FileFree.intro (by simp)
  rintro app ⟨happ⟩
  obtain rfl := Option.some.inj happ
  apply Document.FileFree.intro
  · rintro source properties ⟨⟩
    decide
  · rintro x (_ | @⟨_, _, name, _, -, hname⟩)
    obtain rfl : .literal (.string "/w") = x := by
      by_cases hdirectory : name = "directory"
      · subst hdirectory
        exact Option.some.inj hname
      · simp [List.lookup_cons, beq_false_of_ne hdirectory] at hname
    apply Document.FileFree.intro (by simp)
    rintro y ⟨⟩

theorem start_settles_handler_site :
    siteSettings.rootPath = none ∧ site.FileFree (.reference (.property "app")) ∧
      ∃ s handler, ofDocument siteSettings site ⟨[]⟩ (.empty []) = .ok s ∧
        (∀ now, ((s.dispatchAll siteVisits).2.resolveEntry now).1 = .ok handler) ∧
        (s.dispatchAll siteVisits).1 =
          siteVisits.map fun visit => answer (handler.handle visit.1 visit.2) := by
  have hstarts : (ofDocument siteSettings site ⟨[]⟩ (.empty [])).isOk = true := by
    decide +kernel
  refine ⟨rfl, fileFree_site, ?_⟩
  cases hs : ofDocument siteSettings site ⟨[]⟩ (.empty []) with
  | ok s =>
      obtain ⟨handler, -, hvisits⟩ := start_settles_handler rfl hs fileFree_site
      exact ⟨s, handler, rfl, hvisits siteVisits⟩
  | error e =>
      rw [hs] at hstarts
      exact absurd hstarts (by simp [Except.isOk, Except.toBool])

end Server

end Signpost
