import Signpost.Handler
import Signpost.Proofs.Disk.Canonical

/-!
The files of a static site.  A request's path leads down from the directory along names, and so
does that path without the extension of its last name, but for that one; a response that brings
a file is about one that is found at one of the two.
-/

namespace Signpost

/-! ### The paths of files -/

/-- An extension stands behind a dot that the name does not begin with. -/
theorem exists_stem_of_extension? {name ext : String} (h : extension? name = some ext) :
    ∃ stem : String, stem ≠ "" ∧ name.toList = stem.toList ++ '.' :: ext.toList := by
  unfold extension? at h
  dsimp only at h
  split at h
  · next hlt =>
    obtain rfl := Option.some.inj h
    have hparts := name.toList.reverse.takeWhile_append_dropWhile (p := (· != '.'))
    have hdot := List.head?_dropWhile_not (· != '.') name.toList.reverse
    generalize name.toList.reverse.takeWhile (· != '.') = tail at hlt hparts ⊢
    generalize name.toList.reverse.dropWhile (· != '.') = rest at hdot hparts
    have hlength := congrArg List.length hparts
    rw [List.length_append, List.length_reverse, String.length_toList] at hlength
    obtain ⟨c, more, rfl⟩ := List.exists_cons_of_length_pos (by omega : 0 < rest.length)
    obtain rfl : c = '.' := by simpa using hdot
    have hmore : more ≠ [] := by
      rintro rfl
      simp at hlength
      omega
    refine ⟨String.ofList more.reverse, by simpa using hmore, ?_⟩
    simpa using (congrArg List.reverse hparts).symm
  · contradiction

namespace StaticSite

variable {disk : Disk} {base asked : Path} {names : List String}

theorem mem_of_filterMapM {f : Component → Option (Option String)}
    (hf : ∀ part name, f part = some (some name) → part = .normal name)
    {parts : List Component} (h : parts.filterMapM f = some names) :
    ∀ name ∈ names, .normal name ∈ parts := by
  induction parts generalizing names with
  | nil =>
      obtain rfl : [] = names := by simpa using h
      simp
  | cons part rest ih =>
      rw [List.filterMapM_cons] at h
      obtain ⟨found, hfound, h⟩ := Option.bind_eq_some_iff.mp h
      cases found with
      | none => exact fun name hname => List.mem_cons_of_mem part (ih h name hname)
      | some first =>
          obtain ⟨others, hothers, h⟩ := Option.bind_eq_some_iff.mp h
          obtain rfl := Option.some.inj h
          intro name hname
          rcases List.mem_cons.mp hname with rfl | hname
          · rw [hf part name hfound]
            exact List.mem_cons_self
          · exact List.mem_cons_of_mem part (ih hothers name hname)

theorem isName_of_mem_names? {path : String} (h : names? path = some names) :
    ∀ name ∈ names, IsName name := by
  unfold names? at h
  obtain ⟨decoded, -, h⟩ := Option.bind_eq_some_iff.mp h
  intro name hname
  refine Path.isName_of_normal_mem_components (mem_of_filterMapM ?_ h name hname)
  intro part other hpart
  cases part with
  | normal own => simpa using hpart
  | root => simp at hpart
  | current => simp at hpart
  | parent => simp at hpart

/-- A request's path leads down along names. -/
theorem target?_ofNames {path : String} (hnames : ∀ name ∈ names, IsName name)
    (h : target? (Path.ofNames true names) path = some asked) :
    ∃ more, (∀ name ∈ more, IsName name) ∧ asked = Path.ofNames true (names ++ more) := by
  obtain ⟨more, hmore, rfl⟩ := Option.map_eq_some_iff.mp h
  have hmore := isName_of_mem_names? hmore
  refine ⟨more, hmore, ?_⟩
  rw [Path.join, Path.isAbsolute_ofNames_true, if_pos rfl, Path.foldl_join_ofNames_true
    (fun name hname => (hnames name hname).toIsPiece) fun name hname => (hmore name hname).toIsPiece]

theorem fileName?_ofNames (front : List String) (last : String)
    (hnames : ∀ name ∈ front ++ [last], IsName name) :
    (Path.ofNames true (front ++ [last])).fileName? = some last := by
  rw [Path.fileName?, Path.components_ofNames_true hnames, List.map_append, List.map_singleton,
    ← List.cons_append, List.getLast?_concat]

/-- Without its extension a path of names is one still, but for its last piece. -/
theorem withoutExtension_ofNames (hnames : ∀ name ∈ names, IsName name) :
    withoutExtension (Path.ofNames true names) = Path.ofNames true names ∨
      ∃ front last stem, names = front ++ [last] ∧ IsPiece stem ∧
        withoutExtension (Path.ofNames true names) = Path.ofNames true (front ++ [stem]) := by
  rcases List.eq_nil_or_concat' names with rfl | ⟨front, last, rfl⟩
  · exact .inl (by decide)
  · unfold withoutExtension
    rw [fileName?_ofNames front last hnames]
    cases hext : (some last).bind extension? with
    | none => exact .inl rfl
    | some ext =>
        obtain ⟨stem, hstem, hlast⟩ := exists_stem_of_extension? hext
        have hslash : '/' ∉ stem.toList := by
          intro hmem
          refine (hnames last (by simp)).no_slash ?_
          rw [hlast]
          exact List.mem_append_left _ hmem
        refine .inr ⟨front, last, stem, rfl, ⟨hstem, hslash⟩, ?_⟩
        have htext : (Path.ofNames true (front ++ [last])).text.toList =
            (Path.ofNames true (front ++ [stem])).text.toList ++ '.' :: ext.toList := by
          simp only [Path.toList_ofNames_true, List.map_append, List.map_singleton, hlast,
            Path.intercalate_concat_append, List.cons_append]
        have hlength : (Path.ofNames true (front ++ [last])).text.length - (ext.length + 1) =
            (Path.ofNames true (front ++ [stem])).text.toList.length := by
          simp only [← String.length_toList, htext, List.length_append, List.length_cons]
          omega
        dsimp only
        rw [hlength, htext, List.take_left, String.ofList_toList]

theorem isAbsolute_withoutExtension (hnames : ∀ name ∈ names, IsName name) :
    (withoutExtension (Path.ofNames true names)).isAbsolute = true := by
  rcases withoutExtension_ofNames hnames with hsame | ⟨front, last, stem, -, -, hwithout⟩
  · rw [hsame, Path.isAbsolute_ofNames_true]
  · rw [hwithout, Path.isAbsolute_ofNames_true]

/-- What is found lies at the path asked for, or, where nothing lies there, at the path without its
extension. -/
theorem look_eq_ok {plain : Bool} {place : Location} {entry : Entry}
    (h : look disk plain asked = .ok (place, entry)) :
    disk.find asked = .ok (place, entry) ∨
      disk.find asked = .error .notFound ∧ disk.find (withoutExtension asked) = .ok (place, entry) := by
  unfold look at h
  split at h
  · next hmissing =>
      split at h
      · exact .inr ⟨hmissing, h⟩
      · contradiction
  · exact .inl h

end StaticSite

/-! ### Responses that bring a file -/

namespace StaticSite

variable {disk : Disk} {base : Path} {request : Request}

theorem search_eq_found {opened plain : Bool} {p : Path} {file : Found}
    (h : search disk opened plain p = .found file) :
    ∃ place entry, look disk plain p = .ok (place, entry) ∧
      Found.of? disk p place entry = some file := by
  unfold search at h
  split at h
  · contradiction
  · split at h
    · next e hlook =>
        unfold searchFailure at h
        split at h <;> contradiction
    · next place entry hlook =>
        split at h
        · next own hown =>
            obtain rfl := Search.found.inj h
            exact ⟨place, entry, hlook, hown⟩
        · contradiction

theorem unmetCondition?_eq_bare {file : Found} {headers : Headers} {response : Response}
    (h : unmetCondition? file headers = some response) :
    response = .bare 412 ∨ response = .bare 304 := by
  unfold unmetCondition? at h
  dsimp only at h
  split at h
  · exact .inl (Option.some.inj h).symm
  · split at h
    · exact .inr (Option.some.inj h).symm
    · contradiction

/-- What the search for the file of a request comes to at a path. -/
def searchFor (disk : Disk) (request : Request) (asked : Path) : Search :=
  search disk (request.method == "GET") (Coding.takesIdentity request.headers) asked

/-- A request that a file is looked for comes to none: its path leads nowhere below the directory,
or to no file. -/
def FindsNothing (disk : Disk) (base : Path) (request : Request) : Prop :=
  (request.method = "GET" ∨ request.method = "HEAD") ∧
    ∀ asked, target? base request.uri.path = some asked → searchFor disk request asked = .missing

/-- What the static site responds with. -/
inductive Responds (disk : Disk) (base : Path) (request : Request) : Response → Prop
  | refuses (hmethod : request.method ≠ "GET" ∧ request.method ≠ "HEAD") :
      Responds disk base request ((Response.bare 405).withHeader "allow" "GET,HEAD")
  | missing (hnothing : FindsNothing disk base request) :
      Responds disk base request (.bare 404)
  | broken {asked : Path} (htarget : target? base request.uri.path = some asked)
      (hsearch : searchFor disk request asked = .broken) : Responds disk base request (.bare 500)
  | untold {asked : Path} (htarget : target? base request.uri.path = some asked)
      (hsearch : searchFor disk request asked = .untold) :
      Responds disk base request .unanswered
  | unmet {asked : Path} (htarget : target? base request.uri.path = some asked) {file : Found}
      (hsearch : searchFor disk request asked = .found file) {response : Response}
      (hunmet : unmetCondition? file request.headers = some response) :
      Responds disk base request response
  | file {asked : Path} (htarget : target? base request.uri.path = some asked) {file : Found}
      (hsearch : searchFor disk request asked = .found file) :
      Responds disk base request (fileResponse file (request.method == "GET") request.headers)

theorem responds_respond (disk : Disk) (base : Path) (request : Request) :
    Responds disk base request (respond disk base request) := by
  unfold respond
  dsimp only
  split
  · next hmethod => exact .refuses hmethod
  · next hmethod =>
      have hread : request.method = "GET" ∨ request.method = "HEAD" := by
        by_contra hneither
        exact hmethod (not_or.mp hneither)
      split
      · next htarget =>
          apply Responds.missing
          exact ⟨hread, fun asked hasked => absurd (htarget.symm.trans hasked) (by simp)⟩
      · next asked htarget =>
          split
          · next hsearch =>
              apply Responds.missing
              constructor
              · exact hread
              · intro other hother
                obtain rfl := Option.some.inj (htarget.symm.trans hother)
                exact hsearch
          · next hsearch => exact .broken htarget hsearch
          · next hsearch => exact .untold htarget hsearch
          · next file hsearch =>
              cases hunmet : unmetCondition? file request.headers with
              | none => exact .file htarget hsearch
              | some response => exact .unmet htarget hsearch hunmet

/-- Nothing is read from what is no file. -/
theorem content_of_not_file {place : Location} {entry : Entry} {file : Found}
    (h : Found.of? disk asked place entry = some file)
    (hentry : ∀ content modified, entry ≠ .file content modified) :
    file.content = ByteArray.empty := by
  unfold Found.of? at h
  split at h
  · next content modified => exact absurd rfl (hentry content modified)
  · obtain ⟨time, -, rfl⟩ := Option.map_eq_some_iff.mp h
    rfl

/-- Where there is nothing to be read, a response that does not refuse the ranges brings nothing. -/
theorem body_fileResponse {file : Found} (hcontent : file.content = ByteArray.empty)
    (withBody : Bool) (headers : Headers)
    (hstatus : (fileResponse file withBody headers).status = 200 ∨
      (fileResponse file withBody headers).status = 206) :
    (fileResponse file withBody headers).body = ByteArray.empty := by
  have hnothing (first last : Nat) : ByteArray.empty.extract first last = ByteArray.empty := by
    simp
  unfold fileResponse at hstatus ⊢
  dsimp only at hstatus ⊢
  split
  · simp only [hcontent, hnothing, ite_self]
  · split
    · simp only [hcontent, hnothing, ite_self]
    · simp_all
    · rfl

/-- A response that brings a file is about what has been found. -/
theorem exists_of_status_respond
    (h : (respond disk base request).status = 200 ∨ (respond disk base request).status = 206) :
    ∃ asked place entry file, target? base request.uri.path = some asked ∧
      look disk (Coding.takesIdentity request.headers) asked = .ok (place, entry) ∧
      Found.of? disk asked place entry = some file ∧
      respond disk base request =
        fileResponse file (request.method == "GET") request.headers := by
  have hresponds := responds_respond disk base request
  generalize respond disk base request = response at h hresponds ⊢
  cases hresponds with
  | refuses => simp [Response.bare, Response.withHeader] at h
  | missing => simp [Response.bare] at h
  | broken => simp [Response.bare] at h
  | untold => simp [Response.unanswered, Response.bare] at h
  | unmet _ _ hunmet =>
      rcases unmetCondition?_eq_bare hunmet with rfl | rfl <;> simp [Response.bare] at h
  | @file asked htarget file hsearch =>
      obtain ⟨place, entry, hlook, hfound⟩ := search_eq_found hsearch
      exact ⟨asked, place, entry, file, htarget, hlook, hfound, rfl⟩

end StaticSite

namespace Conduct

theorem strip_fields (base : Path) (request : Request) :
    (strip base request).method = request.method ∧
      (strip base request).headers = request.headers := by
  unfold strip
  split
  · exact ⟨rfl, rfl⟩
  · split <;> exact ⟨rfl, rfl⟩

end Conduct

end Signpost
