import Signpost.Proofs.Http.Patterns
import Signpost.Proofs.Server.Freshness
import Signpost.Router

/-!
Which settings a server can be launched with.  The rules for settings look at the first character
of the health path only, the router reads all of it.  A health path that the rules let through and
that spells no pattern breaks the launch off.
-/

namespace Signpost

variable {settings : Settings}

namespace Settings

theorem head?_healthPath (valid : settings.validate = .ok ()) {path : String}
    (hpath : settings.http.healthPath = some path) : path.toList.head? = some '/' := by
  unfold validate at valid
  rw [hpath] at valid
  split at valid
  · contradiction
  · dsimp only at valid
    split at valid
    · assumption
    · contradiction

/-- Of what makes a pattern the rules for settings see to the slash. -/
theorem parse?_healthPath (valid : settings.validate = .ok ()) {path : String}
    (hpath : settings.http.healthPath = some path) {pattern : RoutePattern} :
    RoutePattern.parse? path = some pattern ↔ pattern.SpeltBy path.toList := by
  rw [RoutePattern.parse?_eq_some_iff, and_iff_right (head?_healthPath valid hpath)]

end Settings

namespace Router

theorem ofServer?_eq_none_iff {settings : HttpSettings} {server : Server} :
    ofServer? settings server = none ↔
      ∃ path, settings.healthPath = some path ∧ RoutePattern.parse? path = none := by
  unfold ofServer?
  cases settings.healthPath with
  | none => simp
  | some path => simp

/-- What the rules for settings leave open: where they hold, a router can be made of a server
exactly if the health path, if there is one, spells a pattern behind its slash. -/
theorem exists_ofServer?_iff (valid : settings.validate = .ok ()) (server : Server) :
    (∃ router, ofServer? settings.http server = some router) ↔
      ∀ path, settings.http.healthPath = some path →
        ∃ pattern : RoutePattern, pattern.SpeltBy path.toList := by
  rw [← Option.ne_none_iff_exists', Ne, ofServer?_eq_none_iff, not_exists]
  refine forall_congr' fun path => ?_
  rw [not_and]
  refine forall_congr' fun hpath => ?_
  rw [← Ne, Option.ne_none_iff_exists']
  exact exists_congr fun pattern => Settings.parse?_healthPath valid hpath

theorem exists_ofServer?_iff_standard :
    Settings.standard.validate = .ok () ∧
      ∀ server, ∃ router, ofServer? Settings.standard.http server = some router := by
  have valid : Settings.standard.validate = .ok () := by decide
  refine ⟨valid, fun server => (exists_ofServer?_iff valid server).mpr ?_⟩
  rintro path ⟨⟩
  exact ⟨_, RoutePattern.speltBy_literals (by decide) (by decide) (by decide)⟩

/-- Settings whose health path opens a brace and never closes it. -/
def openSettings : Settings :=
  { Server.siteSettings with http := { HttpSettings.standard with healthPath := some "/\x7b" } }

theorem validated_without_router :
    openSettings.validate = .ok () ∧
      ∃ server, Server.ofDocument openSettings Server.site ⟨[]⟩ (.empty []) = .ok server ∧
        ofServer? openSettings.http server = none := by
  have hstarts :
      (Server.ofDocument openSettings Server.site ⟨[]⟩ (.empty [])).isOk = true := by
    decide +kernel
  refine ⟨by decide, ?_⟩
  cases hs : Server.ofDocument openSettings Server.site ⟨[]⟩ (.empty []) with
  | ok server => exact ⟨server, rfl, ofServer?_eq_none_iff.mpr ⟨_, rfl, by decide⟩⟩
  | error e =>
      rw [hs] at hstarts
      exact absurd hstarts (by simp [Except.isOk, Except.toBool])

end Router

end Signpost
