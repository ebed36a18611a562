import Signpost.Startup

/-!
The paths that a computation looks at, on the disk it is given.  Whoever knows
only part of a file tree finds out here which part is wanted: on a disk where
these paths are as they should be, the computation comes out as it should.
-/

namespace Signpost

namespace Plan

/-- The paths that the questions of a plan are about. -/
def reach {α : Type} (disk : Disk) (s : Shared) : Plan α → List Path
  | done _ => []
  | confine root path next =>
      (path :: root.toList).map Path.normalize ++ (next (disk.confine root path)).reach disk s
  | read path next => path :: (next (disk.read path)).reach disk s
  | serve base maxAge next =>
      let (handler, s) := s.server base maxAge
      (next handler).reach disk s
  | make conduct next =>
      let (handler, s) := s.handler conduct
      (next handler).reach disk s
  | exhausted => []

end Plan

namespace Conduct

/-- The paths that a handler looks at to answer a request. -/
def reach (request : Request) : Conduct → List Path
  | directory base _ => StaticSite.lookedAt base (strip base request)
  | fixed _ _ => []

end Conduct

namespace Server

/-- The paths that the resolution of the entry looks at. -/
def entryReach (s : Server) (disk : Disk) : List Path :=
  Plan.reach disk s.shared (ExceptT.run (s.service.handlerPlan s.settings.definition.entry))

/-- The paths that a server looks at to answer a request. -/
def reach (s : Server) (disk : Disk) (request : Request) : List Path :=
  s.entryReach disk ++
    match (s.resolveEntry disk).1 with
    | .ok handler => handler.conduct.reach request
    | .error _ => []

end Server

namespace Launch

/-- The paths where a file of variables may lie. -/
def environmentFiles (disk : Disk) : List Path :=
  disk.herePath.ancestors.map fun directory => directory.join ⟨EnvironmentFile.fileName⟩

/-- The paths that a start looks at. -/
def reach (disk : Disk) (environment : Environment) : List Path :=
  environmentFiles disk ++
    match environment.withNearestFile? disk with
    | none => []
    | some environment =>
        let settings := Settings.ofEnvironment environment
        settings.definition.path ::
          match Document.load disk settings.definition.path with
          | .error _ => []
          | .ok document =>
              let registry := Registry.standard (Server.resolverOptions settings)
              (Server.mk settings ⟨document, registry, environment⟩ .start).entryReach disk

end Launch

end Signpost
