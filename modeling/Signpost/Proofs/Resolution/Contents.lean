import Signpost.Proofs.Disk.Canonical
import Signpost.Proofs.Resolution.Termination
import Signpost.Proofs.Text.Bytes

/-!
The contents of files.  A definition of a file is resolved in stages, the first that fails tells
why, and the file itself is opened in the last one only.  What comes out loses nothing: the bytes
of the file can be had back from the text, and bytes that are no text are refused.
-/

namespace Signpost

/-! ### The files opened -/

namespace Plan

variable {α β : Type}

/-- The files that a plan opens when it is run, one after the other. -/
def opened (disk : Disk) (s : Shared) : Plan α → List Path
  | done _ => []
  | confine root path next => (next (disk.confine root path)).opened disk s
  | read path next => path :: (next (disk.read path)).opened disk s
  | serve base maxAge next =>
      let (handler, s) := s.server base maxAge
      (next handler).opened disk s
  | make conduct next =>
      let (handler, s) := s.handler conduct
      (next handler).opened disk s
  | exhausted => []

theorem opened_bind (disk : Disk) (s : Shared) (p : Plan α) (f : α → Plan β) :
    (p.bind f).opened disk s = p.opened disk s ++
      match p.run disk s with
      | (some a, next) => (f a).opened disk next
      | (none, _) => [] := by
  induction p generalizing s with
  | done a => rfl
  | confine root path next ih => exact ih _ s
  | read path next ih => exact congrArg (path :: ·) (ih _ s)
  | serve base maxAge next ih => exact ih _ _
  | make conduct next ih => exact ih _ _
  | exhausted => rfl

end Plan

namespace Resolving

/-- On this disk a resolution comes to an end: with its result, with the files that it opens on the
way, and with what is shared then. -/
structure Runs {α : Type} (p : Resolving α) (disk : Disk) (s : Shared)
    (result : Except ResolveError α) (opened : List Path) (later : Shared) : Prop where
  run : p.run disk s = (some result, later)
  opened : Plan.opened disk s (ExceptT.run p) = opened

variable {α β : Type} {disk : Disk} {s later : Shared} {opened : List Path}

/-- A resolution that ends does so in one way. -/
theorem Runs.iff {p : Resolving α} {first result : Except ResolveError α} {files : List Path}
    {next : Shared} (h : p.Runs disk s first files next) :
    p.Runs disk s result opened later ↔ result = first ∧ opened = files ∧ later = next := by
  constructor
  · rintro ⟨hrun, hopened⟩
    rw [h.run] at hrun
    cases hrun
    exact ⟨rfl, hopened.symm.trans h.opened, rfl⟩
  · rintro ⟨rfl, rfl, rfl⟩
    exact h

theorem runs_pure (a : α) (disk : Disk) (s : Shared) :
    (pure a : Resolving α).Runs disk s (.ok a) [] s :=
  ⟨rfl, rfl⟩

theorem runs_throw (e : ResolveError) (disk : Disk) (s : Shared) :
    (throw e : Resolving α).Runs disk s (.error e) [] s :=
  ⟨rfl, rfl⟩

theorem runs_confine {root : Option Path} {path : Path} {answer : Except Escape Path}
    (h : disk.confine root path = answer) (s : Shared) :
    (confine root path).Runs disk s (answer.mapError .escape) [] s := by
  subst h
  constructor
  · change Plan.run disk s (.confine root path _) = _
    rw [Plan.run]
    cases disk.confine root path <;> rfl
  · change Plan.opened disk s (.confine root path _) = _
    rw [Plan.opened]
    cases disk.confine root path <;> rfl

theorem runs_read {path : Path} {answer : Except IoError ByteArray}
    (h : disk.read path = answer) (s : Shared) :
    (read path).Runs disk s (answer.mapError .io) [path] s := by
  subst h
  constructor
  · change Plan.run disk s (.read path _) = _
    rw [Plan.run]
    cases disk.read path <;> rfl
  · change Plan.opened disk s (.read path _) = _
    rw [Plan.opened]
    cases disk.read path <;> rfl

/-- One resolution after another ends with the failure of the first, or opens the files of the
second behind those of the first. -/
theorem runs_bind_iff {p : Resolving α} {f : α → Resolving β} {result : Except ResolveError β} :
    (p >>= f).Runs disk s result opened later ↔
      (∃ e, p.Runs disk s (.error e) opened later ∧ result = .error e) ∨
        ∃ a front mid back, p.Runs disk s (.ok a) front mid ∧
          (f a).Runs disk mid result back later ∧ opened = front ++ back := by
  have hbind : (p >>= f).Runs disk s result opened later ↔
      (Plan.bind (ExceptT.run p) (ExceptT.bindCont f)).run disk s = (some result, later) ∧
        (Plan.bind (ExceptT.run p) (ExceptT.bindCont f)).opened disk s = opened :=
    ⟨fun h => ⟨h.run, h.opened⟩, fun h => ⟨h.1, h.2⟩⟩
  rw [hbind, Plan.run_bind, Plan.opened_bind]
  constructor
  · rintro ⟨hresult, hfiles⟩
    rcases hp : Plan.run disk s (ExceptT.run p) with ⟨_ | e | a, mid⟩
    · simp [hp] at hresult
    · rw [hp] at hresult hfiles
      cases hresult
      exact .inl ⟨e, ⟨hp, (List.append_nil _).symm.trans hfiles⟩, rfl⟩
    · rw [hp] at hresult hfiles
      exact .inr ⟨a, _, mid, _, ⟨hp, rfl⟩, ⟨hresult, rfl⟩, hfiles.symm⟩
  · rintro (⟨e, ⟨hp, rfl⟩, rfl⟩ | ⟨a, front, mid, back, ⟨hp, rfl⟩, ⟨hf, rfl⟩, rfl⟩)
    · rw [run] at hp
      rw [hp]
      exact ⟨rfl, List.append_nil _⟩
    · rw [run] at hp
      rw [hp]
      exact ⟨hf, rfl⟩

theorem Runs.bind_error {p : Resolving α} {e : ResolveError}
    (h : p.Runs disk s (.error e) opened later) (f : α → Resolving β) :
    (p >>= f).Runs disk s (.error e) opened later :=
  runs_bind_iff.mpr (.inl ⟨e, h, rfl⟩)

theorem Runs.bind {p : Resolving α} {f : α → Resolving β} {a : α} {front back : List Path}
    {mid : Shared} {result : Except ResolveError β} (h : p.Runs disk s (.ok a) front mid)
    (hf : (f a).Runs disk mid result back later) :
    (p >>= f).Runs disk s result (front ++ back) later :=
  runs_bind_iff.mpr (.inr ⟨a, front, mid, back, h, hf, rfl⟩)

end Resolving

/-! ### Contents as texts -/

namespace FileEncoding

/-- The text stands for the contents, which can be had back from it. -/
def Spells (content : ByteArray) (text : String) : FileEncoding → Prop
  | utf8 => text.toUTF8 = content
  | base64 => Base64.decode? text.toList = some content.data.toList

variable {encoding : FileEncoding} {content : ByteArray} {text : String}

theorem decode_eq_ok_iff : encoding.decode content = .ok text ↔ encoding.Spells content text := by
  cases encoding with
  | utf8 =>
      rw [Spells, ← fromUTF8?_eq_some_iff, decode, Disk.decodeText]
      cases String.fromUTF8? content <;> simp
  | base64 =>
      rw [Spells, Base64.decode?_eq_some_iff, decode, Except.ok.injEq, ← String.toList_inj,
        String.toList_ofList]
      exact eq_comm

/-- Only bytes that are no text are refused, and only where they are to be one. -/
theorem decode_eq_error_iff {e : IoError} :
    encoding.decode content = .error e ↔
      encoding = utf8 ∧ (∀ text : String, text.toUTF8 ≠ content) ∧ e = .notUtf8 := by
  cases encoding with
  | utf8 =>
      have hnone : String.fromUTF8? content = none ↔ ∀ text : String, text.toUTF8 ≠ content := by
        rw [Option.eq_none_iff_forall_ne_some]
        exact forall_congr' fun text => not_congr fromUTF8?_eq_some_iff
      rw [← hnone, decode, Disk.decodeText]
      cases String.fromUTF8? content <;> simp [eq_comm]
  | base64 => simp [decode]

end FileEncoding

/-! ### Stages -/

theorem Artifact.string_or (a : Artifact) :
    (∃ text, a = .string text) ∨ ∀ text, a ≠ .string text := by
  by_cases h : ∃ text, a = .string text
  · exact .inl h
  · exact .inr fun text ha => h ⟨text, ha⟩

theorem Resolver.requireString_of_ne {a : Artifact} (h : ∀ text, a ≠ .string text)
    (resolver property : String) :
    requireString resolver property a =
      throw (.invalidType resolver property "string" a.kind) := by
  unfold requireString
  cases a with
  | handler handler => rfl
  | data value =>
      cases value with
      | string text => exact absurd rfl (h text)
      | _ => rfl

namespace Visitor

/-- The scope in which a definition is resolved by a resolver of choice. -/
def scopeOf (v : Visitor) (d : Definition) : Scope :=
  v.scope (valueWithin (v.enough (Value.definition d).depth))

/-- What the encoding of a definition comes to, and the files that are opened on the way: UTF-8 if
nothing is said about it, and otherwise the encoding that a word names. -/
inductive Chooses (v : Visitor) (d : Definition) (disk : Disk) (s : Shared) :
    Except ResolveError FileEncoding → List Path → Shared → Prop where
  | absent (h : d.has "encoding" = false) : Chooses v d disk s (.ok .utf8) [] s
  | fails {e : ResolveError} {opened : List Path} {later : Shared}
      (h : (v.upward? d "encoding").Runs disk s (.error e) opened later) :
      Chooses v d disk s (.error e) opened later
  | noText {a : Artifact} {opened : List Path} {later : Shared}
      (h : (v.upward? d "encoding").Runs disk s (.ok (some a)) opened later)
      (ha : ∀ text, a ≠ .string text) :
      Chooses v d disk s (.error (.invalidType "file" "encoding" "string" a.kind)) opened later
  | unknown {word : String} {opened : List Path} {later : Shared}
      (h : (v.upward? d "encoding").Runs disk s (.ok (some (.string word))) opened later)
      (hword : FileEncoding.ofText? word = none) :
      Chooses v d disk s (.error (.unsupportedEncoding "file" word)) opened later
  | known {word : String} {encoding : FileEncoding} {opened : List Path} {later : Shared}
      (h : (v.upward? d "encoding").Runs disk s (.ok (some (.string word))) opened later)
      (hword : FileEncoding.ofText? word = some encoding) :
      Chooses v d disk s (.ok encoding) opened later

/-- The properties of a definition have come to the name of a file and to an encoding. -/
inductive Prepares (v : Visitor) (d : Definition) (disk : Disk) (s : Shared) :
    String → FileEncoding → List Path → Shared → Prop where
  | mk {name : String} {encoding : FileEncoding} {front back : List Path} {mid later : Shared}
      (hname : (v.upward d "file").Runs disk s (.ok (.string name)) front mid)
      (hencoding : v.Chooses d disk mid (.ok encoding) back later) :
      Prepares v d disk s name encoding (front ++ back) later

/-- What a definition of a file comes to, and the files that are opened on the way: those that its
properties open, and behind them, once nothing else has failed, the file itself. -/
inductive Loads (v : Visitor) (options : ResolverOptions) (d : Definition) (disk : Disk)
    (s : Shared) : Except ResolveError Artifact → List Path → Shared → Prop where
  | fileFails {e : ResolveError} {opened : List Path} {later : Shared}
      (h : (v.upward d "file").Runs disk s (.error e) opened later) :
      Loads v options d disk s (.error e) opened later
  | fileNoText {a : Artifact} {opened : List Path} {later : Shared}
      (h : (v.upward d "file").Runs disk s (.ok a) opened later)
      (ha : ∀ text, a ≠ .string text) :
      Loads v options d disk s (.error (.invalidType "file" "file" "string" a.kind)) opened later
  | encodingFails {name : String} {e : ResolveError} {front back : List Path} {mid later : Shared}
      (hname : (v.upward d "file").Runs disk s (.ok (.string name)) front mid)
      (h : v.Chooses d disk mid (.error e) back later) :
      Loads v options d disk s (.error e) (front ++ back) later
  | outside {name : String} {encoding : FileEncoding} {cause : Escape} {opened : List Path}
      {later : Shared} (h : v.Prepares d disk s name encoding opened later)
      (hpath : disk.confine options.rootPath (v.document.path.resolveAgainst name) =
        .error cause) :
      Loads v options d disk s (.error (.escape cause)) opened later
  | unread {name : String} {encoding : FileEncoding} {path : Path} {cause : IoError}
      {opened : List Path} {later : Shared} (h : v.Prepares d disk s name encoding opened later)
      (hpath : disk.confine options.rootPath (v.document.path.resolveAgainst name) = .ok path)
      (hread : disk.read path = .error cause) :
      Loads v options d disk s (.error (.io cause)) (opened ++ [path]) later
  | noText {name : String} {path : Path} {content : ByteArray} {opened : List Path}
      {later : Shared} (h : v.Prepares d disk s name .utf8 opened later)
      (hpath : disk.confine options.rootPath (v.document.path.resolveAgainst name) = .ok path)
      (hread : disk.read path = .ok content) (hbytes : ∀ text : String, text.toUTF8 ≠ content) :
      Loads v options d disk s
        (.error (.io ⟨.invalidData, "stream did not contain valid UTF-8"⟩)) (opened ++ [path]) later
  | loaded {name text : String} {encoding : FileEncoding} {path : Path} {content : ByteArray}
      {opened : List Path} {later : Shared} (h : v.Prepares d disk s name encoding opened later)
      (hpath : disk.confine options.rootPath (v.document.path.resolveAgainst name) = .ok path)
      (hread : disk.read path = .ok content) (htext : encoding.Spells content text) :
      Loads v options d disk s (.ok (.string text)) (opened ++ [path]) later

variable {v : Visitor} {d : Definition} {options : ResolverOptions} {disk : Disk}
  {s later : Shared} {opened : List Path}

theorem runs_upward?_none_iff {property : String} :
    (v.upward? d property).Runs disk s (.ok none) opened later ↔
      d.has property = false ∧ opened = [] ∧ later = s := by
  cases hget : d.get? property with
  | none =>
      have hplan : v.upward? d property = pure none := by
        simp only [upward?, Scope.upward?, hget]
      rw [hplan, (Resolving.runs_pure none disk s).iff, Definition.has, hget]
      simp
  | some value =>
      have hplan : v.upward? d property =
          (v.scopeOf d).value value >>= fun a => pure (some a) := by
        rw [← map_eq_pure_bind]
        simp only [upward?, Scope.upward?, hget]
        rfl
      rw [hplan, Resolving.runs_bind_iff, Definition.has, hget]
      simp [(Resolving.runs_pure _ _ _).iff]

/-- The encoding that a word names. -/
def encodingNamed (word : String) : Resolving FileEncoding :=
  match FileEncoding.ofText? word with
  | some encoding => pure encoding
  | none => throw (.unsupportedEncoding "file" word)

/-- What is made of the artifact of `encoding`. -/
def encodingFor : Option Artifact → Resolving FileEncoding
  | none => pure .utf8
  | some a => Resolver.requireString "file" "encoding" a >>= encodingNamed

theorem encodingOf_eq :
    Resolver.encodingOf (v.scopeOf d) d = v.upward? d "encoding" >>= encodingFor :=
  bind_congr fun a => by cases a <;> rfl

theorem runs_encodingFor_of_ne {a : Artifact} (h : ∀ text, a ≠ .string text) (disk : Disk)
    (s : Shared) :
    (encodingFor (some a)).Runs disk s
      (.error (.invalidType "file" "encoding" "string" a.kind)) [] s := by
  rw [encodingFor, Resolver.requireString_of_ne h]
  exact Resolving.runs_throw _ _ _

theorem runs_encodingFor_of_eq_none {word : String} (h : FileEncoding.ofText? word = none)
    (disk : Disk) (s : Shared) :
    (encodingFor (some (.string word))).Runs disk s
      (.error (.unsupportedEncoding "file" word)) [] s := by
  change (encodingNamed word).Runs _ _ _ _ _
  rw [encodingNamed, h]
  exact Resolving.runs_throw _ _ _

theorem runs_encodingFor {word : String} {encoding : FileEncoding}
    (h : FileEncoding.ofText? word = some encoding) (disk : Disk) (s : Shared) :
    (encodingFor (some (.string word))).Runs disk s (.ok encoding) [] s := by
  change (encodingNamed word).Runs _ _ _ _ _
  rw [encodingNamed, h]
  exact Resolving.runs_pure _ _ _

theorem runs_encodingOf_iff {result : Except ResolveError FileEncoding} :
    (Resolver.encodingOf (v.scopeOf d) d).Runs disk s result opened later ↔
      v.Chooses d disk s result opened later := by
  rw [encodingOf_eq]
  constructor
  · intro h
    rcases Resolving.runs_bind_iff.mp h with
      ⟨e, hfails, rfl⟩ | ⟨_ | a, front, mid, back, hgiven, hnext, rfl⟩
    · exact .fails hfails
    · obtain ⟨hhas, rfl, rfl⟩ := runs_upward?_none_iff.mp hgiven
      obtain ⟨rfl, rfl, rfl⟩ := (Resolving.runs_pure _ _ _).iff.mp hnext
      exact .absent hhas
    · rcases a.string_or with ⟨word, rfl⟩ | ha
      · cases hword : FileEncoding.ofText? word with
        | none =>
            obtain ⟨rfl, rfl, rfl⟩ := (runs_encodingFor_of_eq_none hword _ _).iff.mp hnext
            rw [List.append_nil]
            exact .unknown hgiven hword
        | some encoding =>
            obtain ⟨rfl, rfl, rfl⟩ := (runs_encodingFor hword _ _).iff.mp hnext
            rw [List.append_nil]
            exact .known hgiven hword
      · obtain ⟨rfl, rfl, rfl⟩ := (runs_encodingFor_of_ne ha _ _).iff.mp hnext
        rw [List.append_nil]
        exact .noText hgiven ha
  · intro h
    rw [← List.append_nil opened]
    cases h with
    | absent h => exact (runs_upward?_none_iff.mpr ⟨h, rfl, rfl⟩).bind (Resolving.runs_pure _ _ _)
    | fails h =>
        rw [List.append_nil]
        exact h.bind_error _
    | noText h ha => exact h.bind (runs_encodingFor_of_ne ha _ _)
    | unknown h hword => exact h.bind (runs_encodingFor_of_eq_none hword _ _)
    | known h hword => exact h.bind (runs_encodingFor hword _ _)

/-! ### Files -/

/-- What is left to do once a definition has come to the name of a file and to an encoding. -/
def load (v : Visitor) (options : ResolverOptions) (name : String) (encoding : FileEncoding) :
    Resolving Artifact := do
  let path ← Resolving.confine options.rootPath (v.document.path.resolveAgainst name)
  let content ← Resolving.read path
  match encoding.decode content with
  | .ok text => return .string text
  | .error e => throw (.io e)

theorem resolveBy_file (hfile : d.has "file" = true) :
    v.resolveBy (.file options) d =
      v.upward d "file" >>= fun a =>
        Resolver.requireString "file" "file" a >>= fun name =>
          Resolver.encodingOf (v.scopeOf d) d >>= v.load options name := by
  simp only [resolveBy, Resolver.file, hfile]
  rfl

section Load

variable {name : String} {path : Path} {encoding : FileEncoding}

theorem runs_load_of_escape {cause : Escape}
    (hpath : disk.confine options.rootPath (v.document.path.resolveAgainst name) = .error cause) :
    (v.load options name encoding).Runs disk s (.error (.escape cause)) [] s :=
  (Resolving.runs_confine hpath s).bind_error _

theorem runs_load_of_unread {cause : IoError}
    (hpath : disk.confine options.rootPath (v.document.path.resolveAgainst name) = .ok path)
    (hread : disk.read path = .error cause) :
    (v.load options name encoding).Runs disk s (.error (.io cause)) [path] s := by
  apply (Resolving.runs_confine hpath s).bind
  exact (Resolving.runs_read hread s).bind_error _

theorem runs_load_of_read {content : ByteArray}
    (hpath : disk.confine options.rootPath (v.document.path.resolveAgainst name) = .ok path)
    (hread : disk.read path = .ok content) :
    (v.load options name encoding).Runs disk s
      (((encoding.decode content).mapError ResolveError.io).map Artifact.string) [path] s := by
  apply (Resolving.runs_confine hpath s).bind
  apply (Resolving.runs_read hread s).bind
  cases encoding.decode content with
  | error cause => exact Resolving.runs_throw _ _ _
  | ok text => exact Resolving.runs_pure _ _ _

variable {front back : List Path} {mid : Shared} {result : Except ResolveError Artifact}

/-- What follows once a definition has come to the name of a file and to an encoding. -/
theorem Prepares.loads (h : v.Prepares d disk s name encoding front mid)
    (hload : (v.load options name encoding).Runs disk mid result back later) :
    v.Loads options d disk s result (front ++ back) later := by
  cases hpath : disk.confine options.rootPath (v.document.path.resolveAgainst name) with
  | error cause =>
      obtain ⟨rfl, rfl, rfl⟩ := (runs_load_of_escape hpath).iff.mp hload
      rw [List.append_nil]
      exact .outside h hpath
  | ok path =>
      cases hread : disk.read path with
      | error cause =>
          obtain ⟨rfl, rfl, rfl⟩ := (runs_load_of_unread hpath hread).iff.mp hload
          exact .unread h hpath hread
      | ok content =>
          obtain ⟨rfl, rfl, rfl⟩ := (runs_load_of_read hpath hread).iff.mp hload
          cases hdecode : encoding.decode content with
          | error cause =>
              obtain ⟨rfl, hbytes, rfl⟩ := FileEncoding.decode_eq_error_iff.mp hdecode
              exact .noText h hpath hread hbytes
          | ok text => exact .loaded h hpath hread (FileEncoding.decode_eq_ok_iff.mp hdecode)

theorem Prepares.runs (hfile : d.has "file" = true)
    (h : v.Prepares d disk s name encoding front mid)
    (hload : (v.load options name encoding).Runs disk mid result back later) :
    (v.resolveBy (.file options) d).Runs disk s result (front ++ back) later := by
  rw [resolveBy_file hfile]
  cases h with
  | mk hname hencoding =>
      rw [List.append_assoc]
      apply hname.bind
      exact (runs_encodingOf_iff.mpr hencoding).bind hload

end Load

theorem Loads.runs (hfile : d.has "file" = true) {result : Except ResolveError Artifact}
    (h : v.Loads options d disk s result opened later) :
    (v.resolveBy (.file options) d).Runs disk s result opened later := by
  cases h with
  | fileFails h =>
      rw [resolveBy_file hfile]
      exact h.bind_error _
  | fileNoText h ha =>
      rw [resolveBy_file hfile, ← List.append_nil opened]
      apply h.bind
      rw [Resolver.requireString_of_ne ha]
      exact Resolving.runs_throw _ _ _
  | encodingFails hname h =>
      rw [resolveBy_file hfile]
      apply hname.bind
      exact (runs_encodingOf_iff.mpr h).bind_error _
  | outside h hpath =>
      rw [← List.append_nil opened]
      exact h.runs hfile (runs_load_of_escape hpath)
  | unread h hpath hread => exact h.runs hfile (runs_load_of_unread hpath hread)
  | noText h hpath hread hbytes =>
      have hload : (v.load options _ .utf8).Runs disk later _ _ later :=
        runs_load_of_read hpath hread
      rw [FileEncoding.decode_eq_error_iff.mpr ⟨rfl, hbytes, rfl⟩] at hload
      exact h.runs hfile hload
  | @loaded _ _ encoding _ _ _ _ h hpath hread htext =>
      have hload : (v.load options _ encoding).Runs disk later _ _ later :=
        runs_load_of_read hpath hread
      rw [FileEncoding.decode_eq_ok_iff.mpr htext] at hload
      exact h.runs hfile hload

theorem loads_of_runs (hfile : d.has "file" = true) {result : Except ResolveError Artifact}
    (h : (v.resolveBy (.file options) d).Runs disk s result opened later) :
    v.Loads options d disk s result opened later := by
  rw [resolveBy_file hfile] at h
  -- Every bind is a stage: it fails, and that is the result, or its files come before all others.
  rcases Resolving.runs_bind_iff.mp h with
    ⟨e, hfails, rfl⟩ | ⟨a, front, mid, rest, hgiven, hnext, rfl⟩
  · exact .fileFails hfails
  · rcases a.string_or with ⟨name, rfl⟩ | ha
    · change (Resolver.encodingOf (v.scopeOf d) d >>= v.load options name).Runs _ _ _ _ _ at hnext
      rcases Resolving.runs_bind_iff.mp hnext with
        ⟨e, hfails, rfl⟩ | ⟨encoding, back, after, last, hchosen, hload, rfl⟩
      · exact .encodingFails hgiven (runs_encodingOf_iff.mp hfails)
      · rw [← List.append_assoc]
        exact (Prepares.mk hgiven (runs_encodingOf_iff.mp hchosen)).loads hload
    · rw [Resolver.requireString_of_ne ha] at hnext
      obtain ⟨rfl, rfl, rfl⟩ := (Resolving.runs_throw _ _ _).iff.mp hnext
      rw [List.append_nil]
      exact .fileNoText hgiven ha

theorem ends_resolveBy_file {others : ResolverOptions} (hv : v.registry = .standard others)
    (hguarded : v.guarded = true) (options : ResolverOptions) (d : Definition) :
    Ends (v.resolveBy (.file options) d) := by
  have hvalue : ∀ property ∈ ["file", "encoding"], ∀ y, d.get? property = some y →
      Ends ((v.scopeOf d).value y) := by
    intro property _ y hget
    exact ends_valueWithin hv hguarded (v.room_le_enough hget)
  have hends := Resolving.respectful_ends options
  exact hends.file (hends.discreet.alongside rfl hvalue) (by simp) (by simp)

/-- A definition of a file comes to what the first of its stages says that does not go well, and
no file is opened for it but those of the stages before and, in the last stage, its own.  If all
goes well, the bytes of that file can be had back from the text.  The built-in resolvers come to
one of these ends always. -/
theorem loaded_in_stages (hfile : d.has "file" = true) (v : Visitor) (options : ResolverOptions)
    (disk : Disk) (s : Shared) :
    (∀ result opened later, (v.resolveBy (.file options) d).Runs disk s result opened later ↔
        v.Loads options d disk s result opened later) ∧
      ∀ others, v.registry = .standard others → v.guarded = true →
        ∃ result opened later, v.Loads options d disk s result opened later := by
  constructor
  · intro result opened later
    exact ⟨loads_of_runs hfile, Loads.runs hfile⟩
  · intro others hv hguarded
    obtain ⟨result, hrun⟩ := (ends_resolveBy_file hv hguarded options d).run disk s
    exact ⟨result, _, _, loads_of_runs hfile ⟨Prod.ext hrun rfl, rfl⟩⟩

/-- A disk with a file. -/
def codedDisk : Disk where
  listed? place := [(["f"], .file ⟨#[104, 105]⟩ 0)].lookup place
  here := []

/-- That file, to be taken in base64. -/
def codedFile : Definition :=
  ⟨⟨"/d.yaml"⟩, [("file", .literal (.string "f")), ("encoding", .literal (.string "Base64"))]⟩

def codedVisitor : Visitor :=
  start (.standard ⟨.production, none⟩) ⟨⟨"/d.yaml"⟩, codedFile⟩ ⟨[]⟩

theorem read_codedDisk : codedDisk.read ⟨"/f"⟩ = .ok ⟨#[104, 105]⟩ := by
  have hsteps : Step.ofPath ⟨"/f"⟩ = [.down "f"] := by decide
  have hleads : codedDisk.Leads Disk.linkBudget [] [.down "f"] ["f"] :=
    .last (by decide) (.inr ⟨_, _, rfl⟩)
  rw [← hsteps] at hleads
  rw [Disk.read, Disk.find_of_leads (by decide) (by decide) (by decide) hleads rfl]
  rfl

theorem loaded_in_stages_coded :
    codedFile.has "file" = true ∧
      (codedVisitor.resolveBy (.file ⟨.production, none⟩) codedFile).Runs codedDisk .start
        (.ok (.string "aGk=")) [⟨"/f"⟩] .start ∧
      ∃ result opened later, codedVisitor.Loads ⟨.production, some ⟨"/w"⟩⟩ codedFile codedDisk
        .start result opened later := by
  have hfile : codedFile.has "file" = true := by decide
  have hword : FileEncoding.ofText? "Base64" = some .base64 := by decide +kernel
  have hpath : codedDisk.confine none (Path.resolveAgainst ⟨"/d.yaml"⟩ "f") = .ok ⟨"/f"⟩ :=
    congrArg Except.ok (by decide)
  have htext : FileEncoding.base64.Spells ⟨#[104, 105]⟩ "aGk=" := by
    change Base64.decode? "aGk=".toList = some [104, 105]
    decide
  have hready : codedVisitor.Prepares codedFile codedDisk .start "f" .base64 ([] ++ []) .start :=
    .mk ⟨rfl, rfl⟩ (.known ⟨rfl, rfl⟩ hword)
  have hstages (root : Option Path) :=
    loaded_in_stages hfile codedVisitor ⟨.production, root⟩ codedDisk .start
  exact ⟨hfile, ((hstages none).1 _ _ _).mpr (.loaded hready hpath read_codedDisk htext),
    (hstages (some ⟨"/w"⟩)).2 ⟨.production, none⟩ rfl rfl⟩

end Visitor

end Signpost
