import Signpost.Proofs.Resolution.Outcome
import Signpost.Server

/-!
A server answers as if it had just been started.  What it remembers of earlier requests
are handlers; each of them serves the directory it is remembered under, and the entry is
resolved, its directory checked against the root, before any of them is asked for.
-/

namespace Signpost

namespace Service

variable {options : ResolverOptions}

theorem alike_handlerPlan {s : Service} (hs : s.registry = .standard options) (disk : Disk)
    (property : String) :
    Resolving.Alike options disk Handler (Handler.ServesAlike options disk)
      (s.handlerPlan property) (s.handlerPlan property) := by
  have h := Resolving.respectful_alike options disk
  have hv : s.visitor.registry = .standard options := hs
  refine h.bind (Visitor.alike_followRoot hv disk _ property) ?_
  intro a b hab
  cases hab with
  | data value => exact .done (.error _)
  | handler hsame => exact h.pure hsame

end Service

namespace Server

/-- What the entry of a document comes to where nothing has been resolved before. -/
def entry (settings : Settings) (document : Document) (environment : Environment) (disk : Disk) :
    Except ResolveError Handler :=
  let service : Service := ⟨document, .standard (resolverOptions settings), environment⟩
  (Resolving.outcome disk (service.handlerPlan settings.definition.entry)).getD
    (.error Resolving.tooDeep)

/-- A server of a document with the built-in resolvers, at some time of its life. -/
structure Of (settings : Settings) (document : Document) (environment : Environment)
    (s : Server) : Prop where
  settings_eq : s.settings = settings
  service_eq : s.service = ⟨document, .standard (resolverOptions settings), environment⟩
  faithful : s.shared.Faithful settings.mode.maxAge

section Of

variable {settings : Settings} {document : Document} {environment : Environment} {s : Server}

/-- Whatever has been resolved before, the entry comes to what it does where nothing has. -/
theorem Of.resolveEntry (h : Of settings document environment s) (disk : Disk) :
    Resolved (Handler.ServesAlike (resolverOptions settings) disk) (s.resolveEntry disk).1
        (entry settings document environment disk) ∧
      Of settings document environment (s.resolveEntry disk).2 := by
  obtain ⟨own, service, shared⟩ := s
  obtain rfl : own = settings := h.settings_eq
  obtain rfl : service = _ := h.service_eq
  have hregistry : (Service.mk document (.standard (resolverOptions own)) environment).registry =
      .standard (resolverOptions own) := rfl
  obtain ⟨hresult, hfaithful⟩ :=
    (Service.alike_handlerPlan hregistry disk own.definition.entry).answer h.faithful
  exact ⟨hresult, rfl, rfl, hfaithful⟩

theorem ofDocument_eq (settings : Settings) (document : Document) (environment : Environment)
    (disk : Disk) :
    match entry settings document environment disk with
    | .ok _ => ∃ s, ofDocument settings document environment disk = .ok s ∧
        Of settings document environment s
    | .error e => ofDocument settings document environment disk = .error (.resolution e) := by
  have hstart : Of settings document environment
      ⟨settings, ⟨document, .standard (resolverOptions settings), environment⟩, .start⟩ :=
    ⟨rfl, rfl, Shared.faithful_start _⟩
  obtain ⟨hresult, hnext⟩ := hstart.resolveEntry disk
  unfold ofDocument start
  generalize Server.resolveEntry _ disk = resolved at hresult hnext ⊢
  obtain ⟨e | handler, next⟩ := resolved
  · rw [hresult.of_error]
  · obtain ⟨fresh, hfresh, -⟩ := hresult.of_ok
    rw [hfresh]
    exact ⟨next, rfl, hnext⟩

theorem of_ofDocument {disk : Disk} (hs : ofDocument settings document environment disk = .ok s) :
    Of settings document environment s := by
  have hstart : Of settings document environment
      ⟨settings, ⟨document, .standard (resolverOptions settings), environment⟩, .start⟩ :=
    ⟨rfl, rfl, Shared.faithful_start _⟩
  have hnext := (hstart.resolveEntry disk).2
  unfold ofDocument start at hs
  split at hs
  · next heq =>
      rw [heq] at hnext
      exact Except.ok.inj hs ▸ hnext
  · contradiction

/-- What a handler answers, or the failure to find one. -/
def respond (disk : Disk) (request : Request) : Except ResolveError Handler → Response
  | .ok handler => answer (handler.handle disk request)
  | .error _ => internalError

theorem Of.dispatch (h : Of settings document environment s) (disk : Disk) (request : Request) :
    (s.dispatch disk request).1 = respond disk request (entry settings document environment disk) ∧
      Of settings document environment (s.dispatch disk request).2 := by
  obtain ⟨hresult, hnext⟩ := h.resolveEntry disk
  unfold Server.dispatch
  generalize s.resolveEntry disk = resolved at hresult hnext ⊢
  obtain ⟨e | handler, next⟩ := resolved
  · rw [hresult.of_error]
    exact ⟨rfl, hnext⟩
  · obtain ⟨fresh, hfresh, base, -, hfirst, hsecond⟩ := hresult.of_ok
    rw [hfresh]
    refine ⟨?_, hnext⟩
    simp only [respond, Handler.handle, hfirst, hsecond]

end Of

/-- The response of a server that has just been started; without one, that of a server that
fails. -/
def freshResponse (settings : Settings) (document : Document) (environment : Environment)
    (disk : Disk) (request : Request) : Response :=
  match ofDocument settings document environment disk with
  | .ok fresh => (fresh.dispatch disk request).1
  | .error _ => internalError

theorem freshResponse_eq (settings : Settings) (document : Document) (environment : Environment)
    (disk : Disk) (request : Request) :
    freshResponse settings document environment disk request =
      respond disk request (entry settings document environment disk) := by
  have hfresh := ofDocument_eq settings document environment disk
  unfold freshResponse
  cases hentry : entry settings document environment disk with
  | ok handler =>
      rw [hentry] at hfresh
      obtain ⟨s, hs, hof⟩ := hfresh
      rw [hs, ← hentry]
      exact (hof.dispatch disk request).1
  | error e =>
      rw [hentry] at hfresh
      dsimp only at hfresh
      rw [hfresh]
      rfl

/-- The responses to requests that come one after the other, the disk having changed in between,
and the server after them. -/
def dispatchAll (s : Server) : List (Disk × Request) → List Response × Server
  | [] => ([], s)
  | (disk, request) :: rest =>
      let (response, next) := s.dispatch disk request
      let (responses, last) := next.dispatchAll rest
      (response :: responses, last)

theorem Of.dispatchAll {settings : Settings} {document : Document} {environment : Environment}
    {s : Server} (h : Of settings document environment s) (visits : List (Disk × Request)) :
    (s.dispatchAll visits).1 = visits.map (fun visit =>
        freshResponse settings document environment visit.1 visit.2) ∧
      Of settings document environment (s.dispatchAll visits).2 := by
  induction visits generalizing s with
  | nil => exact ⟨rfl, h⟩
  | cons visit rest ih =>
      obtain ⟨disk, request⟩ := visit
      obtain ⟨hresponse, hnext⟩ := h.dispatch disk request
      obtain ⟨hresponses, hlast⟩ := ih hnext
      refine ⟨?_, hlast⟩
      rw [List.map_cons, ← hresponses, freshResponse_eq, ← hresponse]
      rfl

/-- A server that has answered requests comes by its handler as one just started does: the
handler is for the directory that the entry names on the disk as it is now, the directory
stays within the root there, and its files may be cached as long as the mode says. -/
theorem Of.handler {settings : Settings} {document : Document} {environment : Environment}
    {s : Server} (h : Of settings document environment s) {disk : Disk} {handler : Handler}
    (hhandler : (s.resolveEntry disk).1 = .ok handler) :
    ∃ base fresh other, disk.Confined settings.rootPath base ∧
      handler.conduct = .directory base settings.mode.maxAge ∧
      ofDocument settings document environment disk = .ok fresh ∧
      (fresh.resolveEntry disk).1 = .ok other ∧ other.conduct = handler.conduct := by
  have hresult := (h.resolveEntry disk).1
  rw [hhandler] at hresult
  obtain ⟨made, hmade, base, hbase, hown, hmadeConduct⟩ := hresult.of_ok
  have hfresh := ofDocument_eq settings document environment disk
  rw [hmade] at hfresh
  obtain ⟨fresh, hstarted, hof⟩ := hfresh
  have hother := (hof.resolveEntry disk).1
  rw [hmade] at hother
  obtain ⟨other, hotherOk, its, -, hconduct, hmadeIts⟩ := hother.to_ok
  refine ⟨base, fresh, other, hbase, hown, hstarted, hotherOk, ?_⟩
  rw [hconduct, hown, ← hmadeIts, hmadeConduct]

/-- Every response is that of a server just started, and so is every handler that is used. -/
theorem dispatchAll_eq_fresh {settings : Settings} {document : Document}
    {environment : Environment} {disk : Disk} {s : Server}
    (hs : ofDocument settings document environment disk = .ok s)
    (visits : List (Disk × Request)) :
    (s.dispatchAll visits).1 = visits.map (fun visit =>
        freshResponse settings document environment visit.1 visit.2) ∧
      ∀ now handler, ((s.dispatchAll visits).2.resolveEntry now).1 = .ok handler →
        ∃ base fresh other, now.Confined settings.rootPath base ∧
          handler.conduct = .directory base settings.mode.maxAge ∧
          ofDocument settings document environment now = .ok fresh ∧
          (fresh.resolveEntry now).1 = .ok other ∧ other.conduct = handler.conduct := by
  have hof : Of settings document environment s := by
    have hstarted := ofDocument_eq settings document environment disk
    revert hstarted
    cases entry settings document environment disk with
    | error e =>
        intro hstarted
        rw [hs] at hstarted
        exact absurd hstarted (by simp)
    | ok handler =>
        rintro ⟨fresh, hfresh, hof⟩
        rw [hs] at hfresh
        obtain rfl : s = fresh := Except.ok.inj hfresh
        exact hof
  obtain ⟨hresponses, hlast⟩ := hof.dispatchAll visits
  exact ⟨hresponses, fun now handler hhandler => hlast.handler hhandler⟩

/-- The settings of a server whose entry is `app`. -/
def siteSettings : Settings where
  server := ⟨"site", "1"⟩
  definition := ⟨⟨"/d"⟩, "app"⟩
  mode := .production
  logging := ⟨"info", false⟩
  http := .standard
  rootPath := none

/-- A document with one directory of static files. -/
def site : Document :=
  ⟨⟨"/d"⟩, ⟨⟨"/d"⟩, [("app", .nested ⟨"/d"⟩ [("directory", .literal (.string "/w"))])]⟩⟩

/-- A request for a file that is not there at first. -/
def siteVisits : List (Disk × Request) :=
  let bare : Disk := .empty []
  let request : Request := ⟨"GET", ⟨none, none, "/a", none⟩, [], ""⟩
  [(bare, request), ((bare.put ["w"] .directory).put ["w", "a"] (.file ⟨#[104, 105]⟩ 0), request)]

theorem dispatchAll_eq_fresh_site :
    ∃ s, ofDocument siteSettings site ⟨[]⟩ (.empty []) = .ok s ∧
      (s.dispatchAll siteVisits).1 = siteVisits.map fun visit =>
        freshResponse siteSettings site ⟨[]⟩ visit.1 visit.2 := by
  have hstarts : (ofDocument siteSettings site ⟨[]⟩ (.empty [])).isOk = true := by
    decide +kernel
  cases hs : ofDocument siteSettings site ⟨[]⟩ (.empty []) with
  | ok s => exact ⟨s, rfl, (dispatchAll_eq_fresh hs siteVisits).1⟩
  | error e =>
      rw [hs] at hstarts
      exact absurd hstarts (by simp [Except.isOk, Except.toBool])

end Server

end Signpost
