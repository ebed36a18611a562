import Signpost.Proofs.Http.Targets
import Signpost.Proofs.Disk.Canonical
import Signpost.Proofs.Path.Normal
import Signpost.Proofs.Text.Bytes
import Signpost.Handler

/-!
The segment that a directory is mounted at.  A path that begins with the name of the directory, and
goes on behind it with a slash, is handed to the static site from that slash on, and everything
else about the request is kept.  The name is looked for in the path as it is spelled, and not in
what it stands for.
-/

namespace Signpost

/-- The request for another path, all else kept. -/
def Request.atPath (request : Request) (path : String) : Request :=
  { request with uri := { request.uri with path } }

/-- A segment of a path as it is spelled, and the name that it stands for. -/
structure Percent.Spells (spelled name : String) : Prop where
  segment : '/' ∉ spelled.toList
  decode : decode? spelled = some name

theorem stripSegment_eq_some_iff {path segment rest : String} :
    stripSegment path segment = some rest ↔
      path = "/" ++ segment ++ rest ∧ rest.toList.head? = some '/' := by
  have hspelled : path = "/" ++ segment ++ rest ↔
      path.toList = '/' :: (segment.toList ++ rest.toList) := by
    rw [← String.toList_inj]
    simp [String.toList_append]
  rw [hspelled]
  unfold stripSegment
  constructor
  · intro h
    split at h
    · next more hpath =>
        split at h
        · next hfront =>
            obtain ⟨behind, rfl⟩ := List.isPrefixOf_iff_prefix.mp hfront
            dsimp only at h
            rw [List.drop_left] at h
            split at h
            · next hslash =>
                obtain rfl := Option.some.inj h
                rw [String.toList_ofList]
                exact ⟨hpath, hslash⟩
            · contradiction
        · contradiction
    · contradiction
  · rintro ⟨hpath, hslash⟩
    rw [hpath]
    have hfront : segment.toList.isPrefixOf (segment.toList ++ rest.toList) = true :=
      List.isPrefixOf_iff_prefix.mpr (List.prefix_append _ _)
    simp only [hfront, if_true, List.drop_left, hslash, String.ofList_toList]

namespace Conduct

variable {disk : Disk} {base : Path} {maxAge : Nat} {request : Request} {path rest text : String}

/-- The path repeats the name of the directory, and goes on with `rest`. -/
def Repeats (base : Path) (path rest : String) : Prop :=
  ∃ name, base.fileName? = some name ∧ path = "/" ++ name ++ rest ∧ rest.toList.head? = some '/'

theorem serveDirectory_eq :
    serveDirectory disk base maxAge request =
      passOn maxAge (strip base request).uri.path
        (StaticSite.respond disk base (strip base request)) :=
  rfl

theorem withPath?_of_repeats (huri : Uri.parse? text = some request.uri)
    (h : Repeats base request.uri.path rest) :
    request.uri.withPath? rest = some { request.uri with path := rest } := by
  obtain ⟨name, -, hpath, hrest⟩ := h
  apply (Uri.valid_of_parse? huri).withPath?_eq_some hpath
  · rw [hpath, String.append_assoc, String.toList_append]
    rfl
  · exact hrest

theorem strip_of_repeats (huri : Uri.parse? text = some request.uri)
    (h : Repeats base request.uri.path rest) : strip base request = request.atPath rest := by
  have hwith := withPath?_of_repeats huri h
  obtain ⟨name, hname, hspelled⟩ := h
  have hstrip := stripSegment_eq_some_iff.mpr hspelled
  simp only [strip, hname, hstrip, Option.bind_some, hwith]
  rfl

theorem strip_of_not_repeats (h : ∀ rest, ¬ Repeats base request.uri.path rest) :
    strip base request = request := by
  unfold strip
  cases hname : base.fileName? with
  | none => rfl
  | some name =>
      have hnone : stripSegment request.uri.path name = none := by
        rw [Option.eq_none_iff_forall_ne_some]
        intro rest hrest
        exact h rest ⟨name, hname, stripSegment_eq_some_iff.mp hrest⟩
      dsimp only
      rw [hnone]
      rfl

/-- Whatever form its target has, a request is handed to the static site once, and as it is, but for
this: a path that repeats the name of the directory is cut down to what follows, whatever that
begins with.  Then the new target can always be written, and so no such path is left as it is. -/
theorem stripped_once (huri : Uri.parse? text = some request.uri) (base : Path) (disk : Disk)
    (maxAge : Nat) :
    let asked := strip base request
    serveDirectory disk base maxAge request =
        passOn maxAge asked.uri.path (StaticSite.respond disk base asked) ∧
      (∀ rest, Repeats base request.uri.path rest →
        request.uri.withPath? rest = some { request.uri with path := rest } ∧
          asked = { request with uri := { request.uri with path := rest } }) ∧
      ((∀ rest, ¬ Repeats base request.uri.path rest) → asked = request) ∧
      (base.fileName? = none → asked = request) := by
  refine ⟨serveDirectory_eq, ?_, strip_of_not_repeats, ?_⟩
  · intro rest hrepeats
    exact ⟨withPath?_of_repeats huri hrepeats, strip_of_repeats huri hrepeats⟩
  · intro hnone
    apply strip_of_not_repeats
    rintro rest ⟨name, hname, -⟩
    rw [hnone] at hname
    contradiction

/-- A request in the longest form, for a path that names the directory twice, with a query that is
there but says nothing. -/
def twiceRequest : Request :=
  ⟨"GET", ⟨some "http", some "h:80", "/site//site/a", some ""⟩, [("range", "bytes=0-")], "x"⟩

theorem stripped_once_twice :
    Uri.parse? "http://h:80/site//site/a?" = some twiceRequest.uri ∧
      strip ⟨"/srv/site"⟩ twiceRequest = ⟨"GET", ⟨some "http", some "h:80", "//site/a", some ""⟩,
        [("range", "bytes=0-")], "x"⟩ := by
  have huri : Uri.parse? "http://h:80/site//site/a?" = some twiceRequest.uri := by decide +kernel
  have hrepeats : Repeats ⟨"/srv/site"⟩ twiceRequest.uri.path "//site/a" :=
    ⟨"site", by decide, by decide, by decide⟩
  obtain ⟨-, hcut, -⟩ := stripped_once huri ⟨"/srv/site"⟩ (.empty []) 0
  exact ⟨huri, (hcut "//site/a" hrepeats).2⟩

end Conduct

/-! ### Names that can be spelled in several ways -/

theorem Path.isName_of_fileName? {p : Path} {name : String} (h : p.fileName? = some name) :
    IsName name := by
  apply isName_of_normal_mem_components (p := p)
  unfold fileName? at h
  split at h
  · next hlast =>
      obtain rfl := Option.some.inj h
      exact List.mem_of_getLast? hlast
  · contradiction

theorem exists_of_head?_slash {rest : String} (h : rest.toList.head? = some '/') :
    ∃ behind, rest = "/" ++ behind := by
  obtain ⟨more, hmore⟩ := List.head?_eq_some_iff.mp h
  refine ⟨String.ofList more, ?_⟩
  rw [← String.toList_inj, hmore]
  simp [String.toList_append]

/-- Two pieces without a slash are the same if slashes follow them in one text. -/
theorem eq_of_append_slash {first second rest other : List Char} (hfirst : '/' ∉ first)
    (hsecond : '/' ∉ second) (h : first ++ '/' :: rest = second ++ '/' :: other) :
    first = second := by
  have hfront {piece : List Char} (hpiece : '/' ∉ piece) (more : List Char) :
      (piece ++ '/' :: more).takeWhile (· != '/') = piece := by
    have hclear : ∀ c ∈ piece, (c != '/') = true := by
      intro c hc
      rw [bne_iff_ne]
      rintro rfl
      exact hpiece hc
    rw [List.takeWhile_append_of_pos hclear]
    simp
  rw [← hfront hfirst rest, h, hfront hsecond other]

namespace StaticSite

variable {spelled other name : String}

theorem ofList_dropWhile_of_spells (hname : IsName name) (h : Percent.Spells spelled name)
    (rest : String) :
    String.ofList (("/" ++ spelled ++ rest).toList.dropWhile (· == '/')) = spelled ++ rest := by
  cases hchars : spelled.toList with
  | nil =>
      obtain rfl := String.toList_eq_nil_iff.mp hchars
      exact absurd (Option.some.inj h.decode).symm hname.ne_empty
  | cons c more =>
      have hc : (c == '/') = false := by
        rw [beq_eq_false_iff_ne]
        rintro rfl
        exact h.segment (hchars ▸ List.mem_cons_self)
      rw [← String.toList_inj]
      simp [String.toList_append, hchars, hc]

/-- The static site is led the same way however a name is spelled. -/
theorem target?_of_spells (hname : IsName name) (h : Percent.Spells spelled name)
    (hother : Percent.Spells other name) {rest : String} (hrest : rest.toList.head? = some '/')
    (base : Path) :
    target? base ("/" ++ spelled ++ rest) = target? base ("/" ++ other ++ rest) := by
  obtain ⟨behind, rfl⟩ := exists_of_head?_slash hrest
  rw [target?, target?, names?, names?, ofList_dropWhile_of_spells hname h,
    ofList_dropWhile_of_spells hname hother, Percent.decode?_append_slash h.decode,
    Percent.decode?_append_slash hother.decode]

theorem respond_atPath {base : Path} {request : Request} {path : String}
    (h : target? base path = target? base request.uri.path) (disk : Disk) :
    respond disk base (request.atPath path) = respond disk base request := by
  rw [respond, Request.atPath]
  dsimp only
  rw [h]
  rfl

end StaticSite

namespace Conduct

variable {disk : Disk} {base : Path} {maxAge : Nat} {request : Request}
  {text spelled name rest : String}

/-- A path repeats the name of the directory only where it is spelled as it is. -/
theorem repeats_iff (hbase : base.fileName? = some name) (h : Percent.Spells spelled name)
    (hrest : rest.toList.head? = some '/') :
    (∃ own, Repeats base ("/" ++ spelled ++ rest) own) ↔ spelled = name := by
  constructor
  · rintro ⟨own, name', hname', hpath, hown⟩
    obtain rfl := Option.some.inj (hbase.symm.trans hname')
    obtain ⟨behind, rfl⟩ := exists_of_head?_slash hrest
    obtain ⟨ownBehind, rfl⟩ := exists_of_head?_slash hown
    have hchars := congrArg String.toList hpath
    simp only [String.toList_append, List.append_assoc, List.append_cancel_left_eq] at hchars
    rw [← String.toList_inj]
    exact eq_of_append_slash h.segment (Path.isName_of_fileName? hbase).no_slash hchars
  · rintro rfl
    exact ⟨rest, spelled, hbase, rfl, hrest⟩

theorem strip_of_spells (huri : Uri.parse? text = some request.uri)
    (hbase : base.fileName? = some name) (h : Percent.Spells spelled name)
    (hpath : request.uri.path = "/" ++ spelled ++ rest) (hrest : rest.toList.head? = some '/') :
    strip base request = if spelled = name then request.atPath rest else request := by
  have hrepeats := repeats_iff hbase h hrest
  rw [← hpath] at hrepeats
  split
  · next hsame =>
      apply strip_of_repeats huri
      exact ⟨name, hbase, hsame ▸ hpath, hrest⟩
  · next hdifferent =>
      apply strip_of_not_repeats
      intro own hown
      exact hdifferent (hrepeats.mp ⟨own, hown⟩)

/-- When the segment that a directory is mounted at is recognised: only where the path spells the
name of the directory as it is.  Then the static site is asked for what follows.  Any other spelling
is handed on as it stands, although to the static site all spellings of a name are one. -/
theorem mount_recognised_iff (huri : Uri.parse? text = some request.uri)
    (hbase : base.fileName? = some name) (h : Percent.Spells spelled name)
    (hpath : request.uri.path = "/" ++ spelled ++ rest) (hrest : rest.toList.head? = some '/')
    (disk : Disk) (maxAge : Nat) :
    (strip base request = request.atPath rest ↔ spelled = name) ∧
      serveDirectory disk base maxAge request =
        (if spelled = name then
          passOn maxAge rest (StaticSite.respond disk base (request.atPath rest))
        else passOn maxAge request.uri.path (StaticSite.respond disk base request)) ∧
      ∀ other, Percent.Spells other name →
        StaticSite.respond disk base (request.atPath ("/" ++ other ++ rest)) =
          StaticSite.respond disk base request := by
  have hstrip := strip_of_spells huri hbase h hpath hrest
  -- Lest the request that is cut down be the one that was asked.
  have hlonger : request.uri.path ≠ rest := by
    intro hshort
    have hlength := congrArg String.length (hpath.symm.trans hshort)
    simp at hlength
  refine ⟨?_, ?_, ?_⟩
  · rw [hstrip]
    constructor
    · intro hcut
      by_contra hdifferent
      rw [if_neg hdifferent] at hcut
      exact hlonger (congrArg (fun asked : Request => asked.uri.path) hcut)
    · intro hsame
      exact if_pos hsame
  · rw [serveDirectory_eq, hstrip]
    split
    · rfl
    · rfl
  · intro other hother
    apply StaticSite.respond_atPath
    rw [hpath]
    exact StaticSite.target?_of_spells (Path.isName_of_fileName? hbase) hother h hrest base

/-- A request below the place that `site` is mounted at. -/
def siteRequest : Request := ⟨"GET", ⟨none, none, "/site/a", none⟩, [], ""⟩

theorem mount_recognised_iff_site :
    Uri.parse? "/site/a" = some siteRequest.uri ∧ Percent.Spells "site" "site" ∧
      Percent.Spells "s%69te" "site" ∧ strip ⟨"/srv/site"⟩ siteRequest = siteRequest.atPath "/a" ∧
      ∀ disk, StaticSite.respond disk ⟨"/srv/site"⟩ (siteRequest.atPath "/s%69te/a") =
        StaticSite.respond disk ⟨"/srv/site"⟩ siteRequest := by
  have huri : Uri.parse? "/site/a" = some siteRequest.uri := by decide +kernel
  have hplain : Percent.Spells "site" "site" := ⟨by decide, by decide +kernel⟩
  have hcoded : Percent.Spells "s%69te" "site" := ⟨by decide, by decide +kernel⟩
  have hbase : Path.fileName? ⟨"/srv/site"⟩ = some "site" := by decide
  have hpath : siteRequest.uri.path = "/" ++ "site" ++ "/a" := by decide
  have hmount := mount_recognised_iff huri hbase hplain hpath (by decide)
  exact ⟨huri, hplain, hcoded, (hmount (.empty []) 0).1.mpr rfl,
    fun disk => (hmount disk 0).2.2 "s%69te" hcoded⟩

/-- A directory with a blank in its name, and a file in it. -/
def blankDisk : Disk where
  listed? place := [(["a b"], .directory), (["a b", "f"], .file ⟨#[104]⟩ 0)].lookup place
  here := []

/-- A request below the place that `a b` is mounted at, in the only way to spell it. -/
def blankRequest : Request := ⟨"GET", ⟨none, none, "/a%20b/f", none⟩, [], ""⟩

theorem find_blankDisk : blankDisk.find ⟨"/a b/f"⟩ = .ok (["a b", "f"], .file ⟨#[104]⟩ 0) := by
  have hsteps : Step.ofPath ⟨"/a b/f"⟩ = [.down "a b", .down "f"] := by decide
  have hleads : blankDisk.Leads Disk.linkBudget [] [.down "a b", .down "f"] ["a b", "f"] :=
    .into (by decide) rfl (.last (by decide) (.inr ⟨_, _, rfl⟩))
  rw [← hsteps] at hleads
  exact Disk.find_of_leads (by decide) (by decide) (by decide) hleads rfl

theorem find_blankDisk_twice : blankDisk.find ⟨"/a b/a b/f"⟩ = .error .notFound := by
  have hsteps : Step.ofPath ⟨"/a b/a b/f"⟩ = [.down "a b", .down "a b", .down "f"] := by decide
  have hsize : ¬ Disk.maxNameSize < "a b".utf8ByteSize := by decide
  have hdirectory : blankDisk.at? ["a b"] = some .directory := rfl
  have hnone : blankDisk.at? ["a b", "a b"] = none := rfl
  have hlocate : blankDisk.locatePath ⟨"/a b/a b/f"⟩ = .error .notFound := by
    rw [Disk.locatePath, if_neg (by decide), if_neg (by decide), if_neg (by decide),
      if_pos (by decide), hsteps]
    simp [Disk.locate, hsize, hdirectory, hnone]
  rw [Disk.find, hlocate]
  rfl

theorem status_respond_blankRequest :
    (StaticSite.respond blankDisk ⟨"/a b"⟩ blankRequest).status = 404 := by
  have htarget : StaticSite.target? ⟨"/a b"⟩ blankRequest.uri.path = some ⟨"/a b/a b/f"⟩ := by
    decide +kernel
  have hplain : Coding.takesIdentity blankRequest.headers = false := by decide +kernel
  rw [StaticSite.respond, if_neg (by decide), htarget]
  simp only [StaticSite.search, StaticSite.isDirectory, StaticSite.look, find_blankDisk_twice,
    hplain]
  rfl

theorem status_respond_atPath_blankRequest :
    (StaticSite.respond blankDisk ⟨"/a b"⟩ (blankRequest.atPath "/f")).status = 200 := by
  have htarget : StaticSite.target? ⟨"/a b"⟩ (blankRequest.atPath "/f").uri.path =
      some ⟨"/a b/f"⟩ := by
    decide +kernel
  rw [StaticSite.respond, if_neg (by decide), htarget]
  simp only [StaticSite.search, StaticSite.isDirectory, StaticSite.look, find_blankDisk]
  rfl

/-- A name that cannot stand in a path as it is is never recognised: the file that would be found
behind it is not. -/
theorem blank_mount_missed :
    Uri.parse? "/a%20b/f" = some blankRequest.uri ∧ Uri.parse? "/a b/f" = none ∧
      Path.fileName? ⟨"/a b"⟩ = some "a b" ∧ Percent.Spells "a%20b" "a b" ∧
      serveDirectory blankDisk ⟨"/a b"⟩ 0 blankRequest = .error (.notFound "/a%20b/f") ∧
      (StaticSite.respond blankDisk ⟨"/a b"⟩ (blankRequest.atPath "/f")).status = 200 := by
  have hbase : Path.fileName? ⟨"/a b"⟩ = some "a b" := by decide
  have hnone : stripSegment blankRequest.uri.path "a b" = none := by decide
  have hstrip : strip ⟨"/a b"⟩ blankRequest = blankRequest := by
    simp only [strip, hbase, hnone]
    rfl
  have hserved : serveDirectory blankDisk ⟨"/a b"⟩ 0 blankRequest =
      .error (.notFound "/a%20b/f") := by
    rw [serveDirectory_eq, hstrip, passOn, if_pos status_respond_blankRequest]
    rfl
  exact ⟨by decide +kernel, by decide +kernel, hbase, ⟨by decide, by decide +kernel⟩, hserved,
    status_respond_atPath_blankRequest⟩

end Conduct

end Signpost
