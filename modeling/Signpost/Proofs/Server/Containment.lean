import Mathlib
import Signpost.Proofs.Disk.Containment
import Signpost.Proofs.Server.Caching

/-!
Where the files lie that a server answers with.  The directory of its handler has been let
through by the root on the disk as it is, and the file is found below it; but the links below a
directory are followed wherever they lead, so the file lies within the root only if they do not
lead out.
-/

namespace Signpost

namespace Disk

variable {disk : Disk} {area place : Location} {names : List String}

/-- The file that is served for a path below an existing one lies inside the area of that one, if
no link leads out of it. -/
theorem Encloses.of_look (h : disk.Encloses area) {top : List String}
    (hnames : ∀ name ∈ names, IsName name) (htop : top <+: names)
    (harea : disk.Leads linkBudget [] (top.map .down) area) (hthere : (disk.at? area).isSome)
    {plain : Bool} {content : ByteArray} {modified : Int}
    (hlook : StaticSite.look disk plain (Path.ofNames true names) =
      .ok (place, .file content modified)) : area <+: place := by
  rcases StaticSite.look_eq_ok hlook with hfind | ⟨hmissing, hfind⟩
  · obtain ⟨more, rfl⟩ := htop
    obtain ⟨hleads, hfile⟩ :=
      leads_of_find_ofNames (fun name hin => (hnames name hin).toIsPiece) hfind
    rw [Step.filterMap_ofPiece?_names hnames] at hleads
    exact h.of_names harea hleads (by simp [hfile])
  · rcases StaticSite.withoutExtension_ofNames hnames with
      hsame | ⟨front, last, stem, rfl, hstem, hwithout⟩
    · rw [hsame, hmissing] at hfind
      contradiction
    · rcases List.prefix_concat_iff.mp htop with rfl | ⟨more, rfl⟩
      · exact absurd hmissing (find_ne_notFound hnames harea hthere)
      · have hfront := (List.forall_mem_append.mp hnames).1
        rw [hwithout] at hfind
        obtain ⟨hleads, hfile⟩ := leads_of_find_ofNames (List.forall_mem_append.mpr
          ⟨fun name hin => (hfront name hin).toIsPiece, List.forall_mem_singleton.mpr hstem⟩) hfind
        exact h.of_file hfront hstem harea hleads hfile

/-- No link leads out of the area of the root, or none out of that of a directory in it. -/
def Seals (disk : Disk) (base : Path) (rootPlace : Location) : Prop :=
  disk.Encloses rootPlace ∨
    ∃ basePlace, disk.canonical? base = some basePlace ∧ disk.Encloses basePlace

/-- The file that is served for a request's path below a directory within the root lies within the
root too, if no link leads out of it, or none out of the directory. -/
theorem prefix_of_look {disk : Disk} {root path base asked : Path} {text : String}
    {place rootPlace : Location} {plain : Bool} {content : ByteArray} {modified : Int}
    (hroot : root.isAbsolute = true) (hconfine : disk.confine (some root) path = .ok base)
    (hasked : StaticSite.target? base text = some asked)
    (hlook : StaticSite.look disk plain asked = .ok (place, .file content modified))
    (hrootPlace : disk.canonical? root.normalize = some rootPlace)
    (hseals : disk.Seals base rootPlace) : rootPlace <+: place := by
  have hpath := isAbsolute_of_confine hroot hconfine
  have hcontains := contains_of_confine hroot hconfine
  obtain ⟨rfl, hunder, -⟩ := confine_some_eq_ok hconfine
  have hnames := Path.isName_of_mem_normalNames hpath
  have hbase := Path.normalize_of_isAbsolute hpath
  rw [hbase] at hasked
  obtain ⟨more, hmore, rfl⟩ := StaticSite.target?_ofNames hnames hasked
  have hall := List.forall_mem_append.mpr ⟨hnames, hmore⟩
  rcases hseals with hencloses | ⟨basePlace, hbasePlace, hencloses⟩
  · have htop := (Path.isUnder_normalize_iff hpath hroot).mp hunder
    have hthere := isSome_of_canonical? ((Path.isAbsolute_normalize root).trans hroot) hrootPlace
    rw [Path.normalize_of_isAbsolute hroot] at hrootPlace
    have htraces :=
      ((canonical?_names_eq_some_iff (Path.isName_of_mem_normalNames hroot)).mp hrootPlace).2
    exact hencloses.of_look hall (htop.trans (List.prefix_append _ more)) htraces.leads hthere hlook
  · obtain ⟨own, hown, hdown, -⟩ := hcontains.canonical basePlace hbasePlace
    obtain rfl := Option.some.inj (hrootPlace.symm.trans hown)
    have hthere := isSome_of_canonical? hcontains.isAbsolute hbasePlace
    rw [hbase] at hbasePlace
    have htraces := ((canonical?_names_eq_some_iff hnames).mp hbasePlace).2
    exact hdown.trans
      (hencloses.of_look hall (List.prefix_append _ more) htraces.leads hthere hlook)

theorem isAbsolute_of_opened {root path base asked opened : Path} {text : String}
    (hroot : root.isAbsolute = true) (hconfine : disk.confine (some root) path = .ok base)
    (hasked : StaticSite.target? base text = some asked)
    (hopened : opened = asked ∨ opened = StaticSite.withoutExtension asked) :
    opened.isAbsolute = true := by
  have hpath := isAbsolute_of_confine hroot hconfine
  obtain ⟨rfl, -, -⟩ := confine_some_eq_ok hconfine
  have hnames := Path.isName_of_mem_normalNames hpath
  rw [Path.normalize_of_isAbsolute hpath] at hasked
  obtain ⟨more, hmore, rfl⟩ := StaticSite.target?_ofNames hnames hasked
  rcases hopened with rfl | rfl
  · exact Path.isAbsolute_ofNames_true _
  · exact StaticSite.isAbsolute_withoutExtension (List.forall_mem_append.mpr ⟨hnames, hmore⟩)

end Disk

namespace Server

/-- An answer that brings a file is the one of the static site, marked for the cache. -/
theorem answer_serveDirectory {disk : Disk} {base : Path} {maxAge : Nat} {request : Request}
    (h : (answer (Conduct.serveDirectory disk base maxAge request)).status = 200 ∨
      (answer (Conduct.serveDirectory disk base maxAge request)).status = 206) :
    ((StaticSite.respond disk base (Conduct.strip base request)).status = 200 ∨
        (StaticSite.respond disk base (Conduct.strip base request)).status = 206) ∧
      answer (Conduct.serveDirectory disk base maxAge request) =
        (StaticSite.respond disk base (Conduct.strip base request)).withHeader "cache-control"
          (Conduct.cacheControl maxAge) := by
  rw [answer_serveDirectory_eq] at h ⊢
  generalize StaticSite.respond disk base (Conduct.strip base request) = response at h ⊢
  have hfound : response.status ≠ 404 := by
    intro hmissing
    rw [release, if_pos hmissing] at h
    simp [notFound, plain, Response.ofText] at h
  rw [status_release hfound] at h
  have hdelivers : response.Delivers := by
    apply Or.inl
    rcases h with h | h <;> simp [Response.isSuccess, h]
  refine ⟨h, ?_⟩
  rw [release, if_neg hfound, if_pos hdelivers]

variable {settings : Settings} {document : Document} {environment : Environment} {s : Server}
  {disk : Disk}

theorem Of.exists_handler (h : Of settings document environment s) {request : Request}
    (hstatus : (s.dispatch disk request).1.status = 200 ∨
      (s.dispatch disk request).1.status = 206) :
    ∃ handler base, (s.resolveEntry disk).1 = .ok handler ∧
      handler.conduct = .directory base settings.mode.maxAge ∧
      disk.Confined settings.rootPath base ∧ (s.dispatch disk request).1 =
        answer (Conduct.serveDirectory disk base settings.mode.maxAge request) := by
  unfold Server.dispatch at hstatus ⊢
  split at hstatus
  · next handler next heq =>
      have hok : (s.resolveEntry disk).1 = .ok handler := by rw [heq]
      obtain ⟨base, -, -, hbase, hconduct, -⟩ := h.handler hok
      refine ⟨handler, base, hok, hconduct, hbase, ?_⟩
      simp [Handler.handle, hconduct, Conduct.handle]
  · simp [internalError, plain, Response.ofText] at hstatus

/-- Whatever a server with an absolute root has answered before, a response that brings something
brings what is found below a directory within the root, or what is found there without the
extension.  If it is no file nothing is brought of it.  A file lies within the root too if the true
location of the root can be told, and no link there leads out of it, or none below the directory out
of that one; the links below a directory are followed wherever they lead. -/
theorem served_within_root {root : Path} {before : Disk}
    (hs : ofDocument settings document environment before = .ok s)
    (hrootPath : settings.rootPath = some root) (hroot : root.isAbsolute = true)
    (past : List (Disk × Request)) (disk : Disk) {request : Request}
    (hstatus : ((s.dispatchAll past).2.dispatch disk request).1.status = 200 ∨
      ((s.dispatchAll past).2.dispatch disk request).1.status = 206) :
    ∃ handler base asked opened place entry file,
      ((s.dispatchAll past).2.resolveEntry disk).1 = .ok handler ∧
      handler.conduct = .directory base settings.mode.maxAge ∧ disk.Contains root base ∧
      StaticSite.target? base (Conduct.strip base request).uri.path = some asked ∧
      (opened = asked ∨ opened = StaticSite.withoutExtension asked) ∧
      disk.find opened = .ok (place, entry) ∧
      StaticSite.Found.of? disk asked place entry = some file ∧
      ((s.dispatchAll past).2.dispatch disk request).1 =
        (StaticSite.fileResponse file (request.method == "GET")
          request.headers).withHeader "cache-control" (Conduct.cacheControl settings.mode.maxAge) ∧
      ((∀ content modified, entry ≠ .file content modified) →
        ((s.dispatchAll past).2.dispatch disk request).1.body = ByteArray.empty) ∧
      (disk.canonical? opened = some place ∨ disk.realPath opened = .error .nameTooLong) ∧
      ∀ content modified, entry = .file content modified →
        ∀ rootPlace, disk.canonical? root.normalize = some rootPlace → disk.Seals base rootPlace →
          rootPlace <+: place ∧
            (disk.Straight root → ∀ own, disk.canonical? root = some own → own <+: place) := by
  have hof := ((of_ofDocument hs).dispatchAll past).2
  obtain ⟨handler, base, hhandler, hconduct, ⟨path, hconfine⟩, hresponse⟩ :=
    hof.exists_handler hstatus
  rw [hresponse] at hstatus ⊢
  rw [hrootPath] at hconfine
  have hcontains := Disk.contains_of_confine hroot hconfine
  obtain ⟨hserved, hanswer⟩ := answer_serveDirectory hstatus
  obtain ⟨asked, place, entry, file, hasked, hlook, hfound, hfile⟩ :=
    StaticSite.exists_of_status_respond hserved
  obtain ⟨hmethod, hheaders⟩ := Conduct.strip_fields base request
  have hopened : ∃ opened, (opened = asked ∨ opened = StaticSite.withoutExtension asked) ∧
      disk.find opened = .ok (place, entry) := by
    rcases StaticSite.look_eq_ok hlook with hfind | ⟨-, hfind⟩
    · exact ⟨asked, .inl rfl, hfind⟩
    · exact ⟨_, .inr rfl, hfind⟩
  obtain ⟨opened, hspelled, hfind⟩ := hopened
  rw [hmethod, hheaders] at hfile
  refine ⟨handler, base, asked, opened, place, entry, file, hhandler, hconduct, hcontains, hasked,
    hspelled, hfind, hfound, ?_, ?_,
    Disk.canonical?_of_find (Disk.isAbsolute_of_opened hroot hconfine hasked hspelled) hfind, ?_⟩
  · rw [hanswer, hfile]
  · intro hentry
    rw [hanswer]
    rw [hfile] at hserved ⊢
    exact StaticSite.body_fileResponse (StaticSite.content_of_not_file hfound hentry) _ _ hserved
  · rintro content modified rfl rootPlace hrootPlace hseals
    have hinside := Disk.prefix_of_look hroot hconfine hasked hlook hrootPlace hseals
    refine ⟨hinside, fun hstraight own hown => ?_⟩
    rwa [hstraight.canonical?_eq hroot hown hrootPlace]

/-- The settings of a server that is kept to a root. -/
def rootedSettings (root : Path) : Settings :=
  { siteSettings with rootPath := some root }

/-- A file in a directory, and a link to it beside it. -/
def sealedDisk : Disk where
  listed? place := [(["w"], .directory), (["w", "f"], .file ⟨#[104]⟩ 0),
    (["w", "a"], .link ⟨"f"⟩)].lookup place
  here := []

/-- A request for what the link leads to. -/
def linkRequest : Request := ⟨"GET", ⟨none, none, "/a", none⟩, [], ""⟩

theorem encloses_sealedDisk : sealedDisk.Encloses ["w"] := by
  intro place target stop hbelow hat hstop _
  have hplace : place ≠ [] := by
    rintro rfl
    exact absurd hbelow (by decide)
  rw [Disk.at?, if_neg hplace] at hat
  obtain ⟨front, back, hentries, -⟩ := List.lookup_eq_some_iff.mp hat
  have hmem : (place, Entry.link target) ∈ front ++ (place, .link target) :: back := by simp
  rw [← hentries] at hmem
  obtain ⟨rfl, rfl⟩ : place = ["w", "a"] ∧ target = ⟨"f"⟩ := by simpa using hmem
  have hsteps : Step.ofPath ⟨"f"⟩ = [.down "f"] := by decide
  have hleads : sealedDisk.Leads Disk.linkBudget ["w"] [.down "f"] ["w", "f"] :=
    .last (by decide) (.inr ⟨_, _, rfl⟩)
  rw [hsteps] at hstop
  obtain rfl : ["w", "f"] = stop := Except.ok.inj (hleads.locate_eq.symm.trans hstop)
  decide

theorem served_within_root_link :
    ∃ s place content modified,
      ofDocument (rootedSettings ⟨"/w"⟩) site ⟨[]⟩ sealedDisk = .ok s ∧
        (s.dispatch sealedDisk linkRequest).1.status = 200 ∧
        sealedDisk.at? place = some (.file content modified) ∧ ["w"] <+: place := by
  have hstatus : (freshResponse (rootedSettings ⟨"/w"⟩) site ⟨[]⟩ sealedDisk linkRequest).status =
      200 := by
    cbv
  have hbody : (freshResponse (rootedSettings ⟨"/w"⟩) site ⟨[]⟩ sealedDisk linkRequest).body ≠
      ByteArray.empty := by
    have hsize : (freshResponse (rootedSettings ⟨"/w"⟩) site ⟨[]⟩ sealedDisk
        linkRequest).body.size = 1 := by
      cbv
    intro hnothing
    rw [hnothing] at hsize
    exact absurd hsize (by decide)
  unfold freshResponse at hstatus hbody
  cases hs : ofDocument (rootedSettings ⟨"/w"⟩) site ⟨[]⟩ sealedDisk with
  | ok s =>
      rw [hs] at hstatus hbody
      have hroot : sealedDisk.canonical? (Path.normalize ⟨"/w"⟩) = some ["w"] := by cbv
      obtain ⟨_, _, _, _, place, entry, _, -, -, -, -, -, hfind, -, -, hnothing, -, hinside⟩ :=
        served_within_root hs rfl (by decide) [] sealedDisk (.inl hstatus)
      have hfile : ∃ content modified, entry = .file content modified := by
        by_contra hnone
        simp only [not_exists] at hnone
        exact hbody (hnothing hnone)
      obtain ⟨content, modified, rfl⟩ := hfile
      exact ⟨s, place, content, modified, rfl, hstatus, (Disk.find_eq_ok_iff.mp hfind).2,
        (hinside content modified rfl ["w"] hroot (.inl encloses_sealedDisk)).1⟩
  | error e =>
      rw [hs] at hstatus
      simp [internalError, plain, Response.ofText] at hstatus

/-- A directory with a link in it to a file beside it. -/
def openDisk : Disk where
  listed? place := [(["w"], .directory), (["w", "a"], .link ⟨"/s"⟩),
    (["s"], .file ⟨#[105]⟩ 0)].lookup place
  here := []

/-- A link in the root is followed to a file outside of it. -/
theorem link_served_outside_root :
    (freshResponse (rootedSettings ⟨"/w"⟩) site ⟨[]⟩ openDisk linkRequest).status = 200 ∧
      openDisk.canonical? ⟨"/w/a"⟩ = some ["s"] ∧ openDisk.canonical? ⟨"/w"⟩ = some ["w"] ∧
      ¬ ["w"] <+: ["s"] :=
  ⟨by cbv, by cbv, by cbv, by decide⟩

/-- A document with a directory of static files that has an extension to its name. -/
def dottedSite : Document :=
  ⟨⟨"/d"⟩, ⟨⟨"/d"⟩, [("app", .nested ⟨"/d"⟩ [("directory", .literal (.string "/s.d"))])]⟩⟩

/-- A request for the directory itself, to be taken in no coding. -/
def plainRequest : Request :=
  ⟨"GET", ⟨none, none, "/.", none⟩, [("accept-encoding", "identity")], ""⟩

/-- Where `/s.d` is missing and taken in no coding, `/s` is found in its place. -/
theorem search_plainRequest :
    StaticSite.searchFor openDisk plainRequest ⟨"/s.d"⟩ = .found ⟨⟨"/s.d"⟩, ⟨#[105]⟩, 1, 0⟩ := by
  have hplain : Coding.takesIdentity plainRequest.headers = true := by decide +kernel
  have hwithout : StaticSite.withoutExtension ⟨"/s.d"⟩ = ⟨"/s"⟩ := by decide
  have hmissing : openDisk.find ⟨"/s.d"⟩ = .error .notFound := by cbv
  have hfound : openDisk.find ⟨"/s"⟩ = .ok (["s"], .file ⟨#[105]⟩ 0) := by cbv
  have hlook : StaticSite.look openDisk true ⟨"/s.d"⟩ = .ok (["s"], .file ⟨#[105]⟩ 0) := by
    rw [StaticSite.look, hmissing, hwithout]
    exact hfound
  rw [StaticSite.searchFor, hplain, StaticSite.search, StaticSite.isDirectory, hmissing, hlook]
  rfl

/-- A missing root is let through as a directory, and where that is asked for itself, the file of
its name without the extension is served in its place, which lies beside it. -/
theorem sibling_served_for_missing_root :
    (freshResponse (rootedSettings ⟨"/s.d"⟩) dottedSite ⟨[]⟩ openDisk plainRequest).status = 200 ∧
      (freshResponse (rootedSettings ⟨"/s.d"⟩) dottedSite ⟨[]⟩ openDisk plainRequest).body.data =
        #[105] ∧
      openDisk.canonical? ⟨"/s"⟩ = some ["s"] ∧ openDisk.canonical? ⟨"/s.d"⟩ = none ∧
      Path.isUnder ⟨"/s"⟩ ⟨"/s.d"⟩ = false := by
  have hentry : (entry (rootedSettings ⟨"/s.d"⟩) dottedSite ⟨[]⟩ openDisk).map Handler.conduct =
      .ok (.directory ⟨"/s.d"⟩ 604800) := by
    cbv
  have hstrip : Conduct.strip ⟨"/s.d"⟩ plainRequest = plainRequest := by cbv
  have htarget : StaticSite.target? ⟨"/s.d"⟩ plainRequest.uri.path = some ⟨"/s.d"⟩ := by
    decide +kernel
  have hserved : StaticSite.respond openDisk ⟨"/s.d"⟩ plainRequest =
      StaticSite.fileResponse ⟨⟨"/s.d"⟩, ⟨#[105]⟩, 1, 0⟩ true plainRequest.headers := by
    have hsearch := search_plainRequest
    unfold StaticSite.searchFor at hsearch
    rw [StaticSite.respond, if_neg (by decide), htarget]
    simp only [hsearch]
    rfl
  have hresponse : freshResponse (rootedSettings ⟨"/s.d"⟩) dottedSite ⟨[]⟩ openDisk plainRequest =
      release 604800
        (StaticSite.fileResponse ⟨⟨"/s.d"⟩, ⟨#[105]⟩, 1, 0⟩ true plainRequest.headers) := by
    rw [freshResponse_eq]
    cases hhandler : entry (rootedSettings ⟨"/s.d"⟩) dottedSite ⟨[]⟩ openDisk with
    | error e => simp [hhandler, Except.map] at hentry
    | ok handler =>
        have hconduct : handler.conduct = .directory ⟨"/s.d"⟩ 604800 := by
          simpa [hhandler, Except.map] using hentry
        rw [respond, Handler.handle, hconduct, Conduct.handle, answer_serveDirectory_eq, hstrip,
          hserved]
  have hrange : plainRequest.headers.text? "range" = none := by decide +kernel
  have hfound : (StaticSite.fileResponse ⟨⟨"/s.d"⟩, ⟨#[105]⟩, 1, 0⟩ true
      plainRequest.headers).status = 200 := by
    simp only [StaticSite.fileResponse, hrange]
  rw [hresponse, status_release (by simp [hfound]), body_release (by simp [hfound])]
  refine ⟨hfound, ?_, by cbv, by cbv, by decide⟩
  simp only [StaticSite.fileResponse, hrange]
  rfl

end Server

end Signpost
