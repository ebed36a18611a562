import Signpost.Reach
import Std.Time.DateTime.Timestamp

/-!
The program.  It starts a server by the variables of its process, and then
answers the requests on its standard input, one `METHOD TARGET` a line.  Where
the start fails it reports why and ends.
-/

namespace Signpost.Program

/-- The variables of the process. -/
def processEnvironment : IO Environment := do
  let content ← IO.FS.readBinFile "/proc/self/environ"
  let lines := content.data.toList.splitOn 0
  return .ofBytes (lines.filterMap fun line =>
    (String.fromUTF8? ⟨(line.takeWhile (· != 0x3D)).toArray⟩).map fun name =>
      (name, ⟨((line.dropWhile (· != 0x3D)).drop 1).toArray⟩))

/-- Entries with their locations. -/
abbrev Entries := List (Location × Entry)

/-- What lies at a location without links on the way. -/
def entryAt? (place : Location) : IO (Option Entry) := do
  let path := (Path.ofNames true place).text
  let real ← IO.FS.realPath path
  let facts ← real.metadata
  match facts.type with
  | .dir => return some .directory
  | .file => return some (.file (← IO.FS.readBinFile path) facts.modified.sec)
  | _ => return none

/-- The entries on the way to a location without links on the way. -/
def entriesTo (place : Location) : IO Entries := do
  let above := (List.range place.length).map fun n => (place.take n, Entry.directory)
  match ← entryAt? place with
  | some entry => return (place, entry) :: above
  | none => return above

/-- The entries along steps from a location, as far as they lead. -/
partial def entriesAlong (place : Location) : List Step → IO Entries
  | [] => return []
  | .stay :: rest => entriesAlong place rest
  | .up :: rest => entriesAlong place.dropLast rest
  | .down name :: rest => do
      let next := place ++ [name]
      let found ← (some <$> IO.FS.realPath (Path.ofNames true next).text).catchExceptions
        fun _ => return none
      match found with
      | none => return []
      | some real =>
          let target : Path := ⟨real.toString⟩
          let place := target.normalNames
          let link := if place = next then [] else [(next, Entry.link target)]
          return link ++ (← entriesTo place) ++ (← entriesAlong place rest)

/-- What a directory tells of itself. -/
def directoryStatus (place : Location) : IO (Nat × Int) := do
  let facts ← (← IO.FS.realPath (Path.ofNames true place).text).metadata
  return (facts.byteSize.toNat, facts.modified.sec)

/-- The part of the file tree that these paths lead through. -/
def diskAlong (here : Location) (paths : List Path) : IO Disk := do
  let parts ← paths.mapM fun p =>
    entriesAlong (if p.isAbsolute then [] else here) (Step.ofPath p)
  let above := (List.range (here.length + 1)).map fun n => (here.take n, Entry.directory)
  let entries := parts.flatten ++ above
  let mut statuses := #[]
  for (place, entry) in entries do
    if let .directory := entry then
      statuses := statuses.push (place, ← directoryStatus place)
  let known := statuses.toList
  return {
    listed? := fun place => entries.lookup place
    here := here
    directoryStatus := fun place => (known.lookup place).getD (0, 0) }

/-- The part of the file tree that a computation looks at. -/
partial def settle (here : Location) (known : List Path) (reach : Disk → List Path) :
    IO Disk := do
  let disk ← diskAlong here known
  let wanted := (reach disk).filter fun p => !known.contains p
  if wanted.isEmpty then return disk else settle here (known ++ wanted.eraseDups) reach

/-- The request that a line asks for. -/
def request? (line : String) : Option Request :=
  match (line.trimAscii.toString.splitOn " ").filter (· != "") with
  | [method, target] => (Uri.parse? target).map fun uri => ⟨method, uri, [], ""⟩
  | _ => none

/-- Write a response, if there is one. -/
def write (output : IO.FS.Stream) (response : Response) : IO Unit := do
  if response.status = Response.unanswered.status then return
  output.putStr s!"HTTP/1.1 {response.status}\r\n"
  for (name, value) in response.headers do
    output.putStr s!"{name}: {value}\r\n"
  output.putStr "\r\n"
  output.write response.body
  output.flush

/-- Answer requests until there are no more. -/
partial def serve (here : Location) (router : Router) : IO Unit := do
  let line ← (← IO.getStdin).getLine
  if line.isEmpty then return
  match request? line with
  | none =>
      write (← IO.getStdout) (.bare 400)
      serve here router
  | some request =>
      let disk ← settle here [] fun disk => router.server.reach disk request
      let time ← Std.Time.Timestamp.now
      let now : Instant :=
        ⟨time.toSecondsSinceUnixEpoch.val.toNat, time.val.nano.val.toNat⟩
      let (response, router) := router.respond disk now request
      write (← IO.getStdout) response
      serve here router

/-- Start a server and answer requests, or report why there is none. -/
def run : IO UInt32 := do
  let environment ← processEnvironment
  let here := (Path.mk (← IO.currentDir).toString).normalNames
  let disk ← settle here [] fun disk => Launch.reach disk environment
  let launch := Launch.start disk environment (.ok ())
  match launch with
  | .ready router => serve here router
  | .failed report => IO.eprintln report.text
  | .broken => IO.eprintln "the health path or a variable is unusable"
  return UInt32.ofNat launch.exitStatus

end Signpost.Program

/-- The program. -/
def main : IO UInt32 := Signpost.Program.run
