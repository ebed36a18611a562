import Signpost.Disk
import Signpost.Http.Coding
import Signpost.Http.Date
import Signpost.Http.MediaType
import Signpost.Http.Message
import Signpost.Http.Range
import Signpost.Percent

/-!
Serving the files below a directory.  The path of a request is decoded and
followed below the directory; where it leads to a directory nothing is served.
Then come the conditions on the time of the file's last change, and then the
ranges.
-/

namespace Signpost

namespace StaticSite

/-- The names that a request path leads along, unless it is ill-formed, starts
anew at the root, or climbs. -/
def names? (path : String) : Option (List String) := do
  let decoded ← Percent.decode? (String.ofList (path.toList.dropWhile (· == '/')))
  (Path.mk decoded).components.filterMapM fun component =>
    match component with
    | .normal name => some (some name)
    | .current => some none
    | .root => none
    | .parent => none

/-- The path of the file that a request path names below `base`, which is spelled
as seen from the current directory. -/
def target? (base : Path) (path : String) : Option Path :=
  (names? path).map fun names => names.foldl (fun p name => p.join ⟨name⟩) (Path.join ⟨"."⟩ base)

/-- A path without the extension of its name. -/
def withoutExtension (p : Path) : Path :=
  match p.fileName?.bind extension? with
  | none => p
  | some ext => ⟨String.ofList (p.text.toList.take (p.text.length - (ext.length + 1)))⟩

/-- A file that can be served, and the path it was asked for by. -/
structure Found where
  path : Path
  content : ByteArray
  /-- The size that the file tells of itself. -/
  size : Nat
  modified : Nat

/-- What is served of what has been opened, if the time of its last change can be told.  A
directory can be opened like a file, but there is nothing to be read from it. -/
def Found.of? (disk : Disk) (asked : Path) (place : Location) : Entry → Option Found
  | .file content modified =>
      (HttpDate.told? modified).map fun time => ⟨asked, content, content.size, time⟩
  | _ =>
      let (size, modified) := disk.directoryStatus place
      (HttpDate.told? modified).map fun time => ⟨asked, ByteArray.empty, size, time⟩

/-- What the search for a file comes to. -/
inductive Search where
  | found (file : Found)
  | missing
  /-- The file system itself failed. -/
  | broken
  /-- No header field can tell the time of the last change. -/
  | untold

/-- What a failure to open a file means.  A name that cannot be one is missing
where the file is to be opened, and a failure where it is only looked at. -/
def searchFailure (opened : Bool) (e : IoError) : Search :=
  if e = .notFound ∨ e = .notADirectory ∨ (opened ∧ e = .nulInName) then .missing else .broken

/-- What the disk holds at a path, and where nothing lies there, for who takes
the file in no coding, at the path without its extension. -/
def look (disk : Disk) (plain : Bool) (p : Path) : Except IoError (Location × Entry) :=
  match disk.find p with
  | .error .notFound => if plain then disk.find (withoutExtension p) else .error .notFound
  | other => other

/-- Whether a directory lies at a path. -/
def isDirectory (disk : Disk) (p : Path) : Bool :=
  match disk.find p with
  | .ok (_, .directory) => true
  | _ => false

/-- Look for the file at a path.  A directory counts as missing, but only at that very path: it is
not looked for again where the search goes on without the extension. -/
def search (disk : Disk) (opened plain : Bool) (p : Path) : Search :=
  if isDirectory disk p then .missing
  else
    match look disk plain p with
    | .error e => searchFailure opened e
    | .ok (place, entry) =>
        match Found.of? disk p place entry with
        | some file => .found file
        | none => .untold

/-- The paths that the search for a request's file looks at. -/
def lookedAt (base : Path) (request : Request) : List Path :=
  match target? base request.uri.path with
  | none => []
  | some p => [p, withoutExtension p]

/-- The response that a request's conditions on the last change ask for. -/
def unmetCondition? (file : Found) (headers : Headers) : Option Response :=
  let date (name : String) := (headers.text? name).bind HttpDate.parse?
  if (date "if-unmodified-since").any fun time => time < file.modified then
    some (.bare 412)
  else if (date "if-modified-since").any fun time => file.modified ≤ time then
    some (.bare 304)
  else none

/-- The header fields of every response about a file. -/
def fileHeaders (file : Found) : Headers :=
  [("content-type", mediaType file.path), ("accept-ranges", "bytes"),
   ("last-modified", HttpDate.text file.modified)]

/-- The sentence that refuses several ranges at once. -/
def manyRanges : String := "Cannot serve multipart range requests"

/-- The response with a file or the asked part of it. -/
def fileResponse (file : Found) (withBody : Bool) (headers : Headers) : Response :=
  let size := file.size
  let body (first last : Nat) : ByteArray :=
    if withBody then file.content.extract first last else ByteArray.empty
  match headers.text? "range" with
  | none =>
      ⟨200, fileHeaders file ++ [("content-length", toString size)], body 0 size⟩
  | some value =>
      let unsatisfied := fileHeaders file ++ [("content-range", s!"bytes */{size}")]
      match RangeSpec.satisfy? value size with
      | some [(first, last)] =>
          let count := if size = 0 then 0 else last - first + 1
          ⟨206, fileHeaders file ++ [("content-range", s!"bytes {first}-{last}/{size}"),
            ("content-length", toString count)], body first (last + 1)⟩
      | some _ => ⟨416, unsatisfied, manyRanges.toUTF8⟩
      | none => ⟨416, unsatisfied, ByteArray.empty⟩

/-- The response to a request for a file below `base`. -/
def respond (disk : Disk) (base : Path) (request : Request) : Response :=
  if request.method ≠ "GET" ∧ request.method ≠ "HEAD" then
    (Response.bare 405).withHeader "allow" "GET,HEAD"
  else
    match target? base request.uri.path with
    | none => .bare 404
    | some p =>
        let opened := request.method == "GET"
        match search disk opened (Coding.takesIdentity request.headers) p with
        | .missing => .bare 404
        | .broken => .bare 500
        | .untold => .unanswered
        | .found file =>
            (unmetCondition? file request.headers).getD
              (fileResponse file opened request.headers)

end StaticSite

end Signpost
