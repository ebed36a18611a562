import Mathlib
import Signpost.Proofs.Server.Files
import Signpost.Proofs.Server.Freshness

/-!
What clients may keep.  The static site never says how long a response may be kept; the handler of
a directory says so of every response that brings something or confirms what a client has, and of
no other, and a server adds nothing to that.
-/

namespace Signpost

namespace Headers

variable {headers : Headers} {name : String}

theorem filter_of_ne (h : ∀ field ∈ headers, field.1 ≠ name) :
    headers.filter (·.1 == name) = [] := by
  rw [List.filter_eq_nil_iff]
  intro field hfield
  simpa using h field hfield

theorem filter_set_self (headers : Headers) (name value : String) :
    (headers.set name value).filter (·.1 == name) = [(name, value)] := by
  have hothers : (headers.filter (·.1 != name)).filter (·.1 == name) = [] := by
    apply filter_of_ne
    intro field hfield
    simpa using (List.mem_filter.mp hfield).2
  rw [set, List.filter_append, hothers]
  simp

theorem filter_set_others (h : ∀ field ∈ headers, field.1 ≠ name) (value : String) :
    (headers.set name value).filter (·.1 != name) = headers := by
  have hothers : headers.filter (·.1 != name) = headers := by
    rw [List.filter_eq_self]
    intro field hfield
    simpa using h field hfield
  rw [set, List.filter_append, hothers, hothers]
  simp

end Headers

/-- The response brings something, or confirms what a client has. -/
def Response.Delivers (response : Response) : Prop :=
  response.isSuccess ∨ response.status = 304

instance (response : Response) : Decidable response.Delivers :=
  inferInstanceAs (Decidable (_ ∨ _))

namespace StaticSite

variable {disk : Disk} {base : Path} {request : Request} {response : Response}

theorem not_findsNothing {asked : Path} (htarget : target? base request.uri.path = some asked)
    (hsearch : searchFor disk request asked ≠ .missing) : ¬ FindsNothing disk base request :=
  fun h => hsearch (h.2 asked htarget)

theorem status_fileResponse (file : Found) (withBody : Bool) (headers : Headers) :
    (fileResponse file withBody headers).status = 200 ∨
      (fileResponse file withBody headers).status = 206 ∨
      (fileResponse file withBody headers).status = 416 := by
  unfold fileResponse
  dsimp only
  split
  · exact .inl rfl
  · split
    · exact .inr (.inl rfl)
    · exact .inr (.inr rfl)
    · exact .inr (.inr rfl)

theorem Responds.status_eq_404_iff (h : Responds disk base request response) :
    response.status = 404 ↔ FindsNothing disk base request := by
  cases h with
  | refuses hmethod =>
      constructor
      · intro hstatus
        exact absurd hstatus (by decide)
      · rintro ⟨hget | hhead, -⟩
        · exact absurd hget hmethod.1
        · exact absurd hhead hmethod.2
  | missing hnothing => exact ⟨fun _ => hnothing, fun _ => rfl⟩
  | broken htarget hsearch =>
      apply iff_of_false
      · decide
      · exact not_findsNothing htarget (by simp [hsearch])
  | untold htarget hsearch =>
      apply iff_of_false
      · decide
      · exact not_findsNothing htarget (by simp [hsearch])
  | unmet htarget hsearch hunmet =>
      apply iff_of_false
      · rcases unmetCondition?_eq_bare hunmet with rfl | rfl <;> decide
      · exact not_findsNothing htarget (by simp [hsearch])
  | @file asked htarget file hsearch =>
      apply iff_of_false
      · have hstatus := status_fileResponse file (request.method == "GET") request.headers
        omega
      · exact not_findsNothing htarget (by simp [hsearch])

theorem ne_of_mem_fileHeaders {file : Found} {field : String × String}
    (h : field ∈ fileHeaders file) : field.1 ≠ "cache-control" := by
  simp only [fileHeaders, List.mem_cons, List.not_mem_nil, or_false] at h
  rcases h with rfl | rfl | rfl <;> simp

/-- Besides what it tells of the file, a response with one tells of its length and the range. -/
theorem headers_fileResponse (file : Found) (withBody : Bool) (headers : Headers) :
    ∃ more, (fileResponse file withBody headers).headers = fileHeaders file ++ more ∧
      ∀ field ∈ more, field.1 = "content-length" ∨ field.1 = "content-range" := by
  unfold fileResponse
  dsimp only
  split
  · exact ⟨_, rfl, by simp⟩
  · split
    · exact ⟨[_, _], rfl, by simp⟩
    · exact ⟨_, rfl, by simp⟩
    · exact ⟨_, rfl, by simp⟩

/-- The static site says nothing about how long a response may be kept. -/
theorem Responds.ne_of_mem_headers (h : Responds disk base request response) :
    ∀ field ∈ response.headers, field.1 ≠ "cache-control" := by
  intro field hfield
  cases h with
  | refuses =>
      obtain rfl := List.mem_singleton.mp hfield
      decide
  | missing => exact absurd hfield List.not_mem_nil
  | broken => exact absurd hfield List.not_mem_nil
  | untold => exact absurd hfield List.not_mem_nil
  | unmet _ _ hunmet =>
      rcases unmetCondition?_eq_bare hunmet with rfl | rfl <;>
        exact absurd hfield List.not_mem_nil
  | @file asked htarget file hsearch =>
      obtain ⟨more, hheaders, hmore⟩ :=
        headers_fileResponse file (request.method == "GET") request.headers
      rw [hheaders, List.mem_append] at hfield
      rcases hfield with hfield | hfield
      · exact ne_of_mem_fileHeaders hfield
      · rcases hmore field hfield with hname | hname <;> rw [hname] <;> decide

end StaticSite

namespace Server

variable {disk : Disk} {base : Path} {maxAge : Nat} {request : Request}

/-- What a server makes of a response of the static site. -/
def release (maxAge : Nat) (response : Response) : Response :=
  if response.status = 404 then notFound
  else if response.Delivers then
    response.withHeader "cache-control" (Conduct.cacheControl maxAge)
  else response

theorem answer_passOn (path : String) (response : Response) :
    answer (Conduct.passOn maxAge path response) = release maxAge response := by
  unfold Conduct.passOn release
  by_cases hmissing : response.status = 404
  · rw [if_pos hmissing, if_pos hmissing]
    rfl
  · rw [if_neg hmissing, if_neg hmissing]
    by_cases hdelivers : response.isSuccess ∨ response.status = 304
    · rw [if_pos hdelivers]
      exact (if_pos hdelivers).symm
    · rw [if_neg hdelivers]
      exact (if_neg hdelivers).symm

theorem answer_serveDirectory_eq :
    answer (Conduct.serveDirectory disk base maxAge request) =
      release maxAge (StaticSite.respond disk base (Conduct.strip base request)) :=
  answer_passOn _ _

/-- A response is marked with a lifetime if it delivers, once, and not at all if it does not. -/
def Marked (maxAge : Nat) (response : Response) : Prop :=
  response.headers.filter (·.1 == "cache-control") =
    if response.Delivers then [("cache-control", Conduct.cacheControl maxAge)] else []

theorem marked_plain (maxAge : Nat) {status : Nat} (hstatus : 400 ≤ status) (words : String) :
    Marked maxAge (plain status words) := by
  have hfails : ¬ (plain status words).Delivers := by
    simp [Response.Delivers, Response.isSuccess, plain, Response.ofText]
    omega
  rw [Marked, if_neg hfails]
  rfl

theorem marked_release {response : Response}
    (hheaders : ∀ field ∈ response.headers, field.1 ≠ "cache-control") :
    Marked maxAge (release maxAge response) := by
  unfold release
  split
  · exact marked_plain maxAge (by decide) _
  · split
    · next hdelivers =>
        have hkept : (response.withHeader "cache-control" (Conduct.cacheControl maxAge)).Delivers :=
          hdelivers
        rw [Marked, if_pos hkept]
        exact Headers.filter_set_self response.headers _ _
    · next hdelivers =>
        rw [Marked, if_neg hdelivers]
        exact Headers.filter_of_ne hheaders

theorem status_release {response : Response} (hfound : response.status ≠ 404) :
    (release maxAge response).status = response.status := by
  rw [release, if_neg hfound]
  split <;> rfl

theorem body_release {response : Response} (hfound : response.status ≠ 404) :
    (release maxAge response).body = response.body := by
  rw [release, if_neg hfound]
  split <;> rfl

/-- Apart from the mark, the headers of the static site are passed through as they are. -/
theorem headers_release {response : Response}
    (hheaders : ∀ field ∈ response.headers, field.1 ≠ "cache-control")
    (hfound : response.status ≠ 404) :
    (release maxAge response).headers.filter (·.1 != "cache-control") = response.headers := by
  rw [release, if_neg hfound]
  split
  · exact Headers.filter_set_others hheaders _
  · rw [List.filter_eq_self]
    intro field hfield
    simpa using hheaders field hfield

/-- What becomes of a response of the static site.  Where that finds nothing, the server says so in
its own words; everything else is passed through, but for the mark, which is made once if the
response brings something or confirms what a client has. -/
structure PassedOn (maxAge : Nat) (own response : Response) : Prop where
  missing : own.status = 404 → response = notFound
  kept : own.status ≠ 404 → response.status = own.status ∧ response.body = own.body ∧
    response.headers.filter (·.1 != "cache-control") = own.headers
  marked : Marked maxAge response

theorem passedOn_release {own : Response}
    (hheaders : ∀ field ∈ own.headers, field.1 ≠ "cache-control") :
    PassedOn maxAge own (release maxAge own) where
  missing hmissing := if_pos hmissing
  kept hfound := ⟨status_release hfound, body_release hfound, headers_release hheaders hfound⟩
  marked := marked_release hheaders

theorem dispatch_eq_respond (s : Server) (disk : Disk) (request : Request) :
    (s.dispatch disk request).1 = respond disk request (s.resolveEntry disk).1 := by
  unfold Server.dispatch
  generalize s.resolveEntry disk = resolved
  obtain ⟨e | handler, next⟩ := resolved <;> rfl

variable {settings : Settings} {document : Document} {environment : Environment} {s : Server}

/-- Whatever a server has answered before, it answers with a failure where the entry does not
resolve, and else with what becomes of the static site's response about the directory of the
handler.  The same becomes of any other response that the static site could give, as long as it
does not say itself how long it may be kept.  In the end clients are told so once, as the mode has
it, if they are brought something or what they have is confirmed, and not at all otherwise. -/
theorem marked_iff_delivers {before : Disk}
    (hs : ofDocument settings document environment before = .ok s) (past : List (Disk × Request))
    (disk : Disk) (request : Request) :
    let last := (s.dispatchAll past).2
    let response := (last.dispatch disk request).1
    ((∃ e, (last.resolveEntry disk).1 = .error e ∧ response = internalError) ∨
        ∃ handler base, (last.resolveEntry disk).1 = .ok handler ∧
          handler.conduct = .directory base settings.mode.maxAge ∧
          let asked := Conduct.strip base request
          let own := StaticSite.respond disk base asked
          (own.status = 404 ↔ StaticSite.FindsNothing disk base asked) ∧
            response = answer (Conduct.passOn settings.mode.maxAge asked.uri.path own) ∧
            PassedOn settings.mode.maxAge own response) ∧
      (∀ (path : String) (own : Response),
        (∀ field ∈ own.headers, field.1 ≠ "cache-control") →
          PassedOn settings.mode.maxAge own
            (answer (Conduct.passOn settings.mode.maxAge path own))) ∧
      response.headers.filter (·.1 == "cache-control") =
        if response.isSuccess ∨ response.status = 304 then
          [("cache-control", Conduct.cacheControl settings.mode.maxAge)] else [] := by
  intro last response
  have hof : Of settings document environment last := ((of_ofDocument hs).dispatchAll past).2
  have hresponse : response = respond disk request (last.resolveEntry disk).1 :=
    dispatch_eq_respond last disk request
  have hpassed : ∀ (path : String) (own : Response),
      (∀ field ∈ own.headers, field.1 ≠ "cache-control") →
        PassedOn settings.mode.maxAge own
          (answer (Conduct.passOn settings.mode.maxAge path own)) := by
    intro path own hheaders
    rw [answer_passOn]
    exact passedOn_release hheaders
  cases hentry : (last.resolveEntry disk).1 with
  | error e =>
      have hfails : response = internalError := by rw [hresponse, hentry, respond]
      refine ⟨.inl ⟨e, rfl, hfails⟩, hpassed, ?_⟩
      rw [hfails]
      exact marked_plain settings.mode.maxAge (by decide) _
  | ok handler =>
      obtain ⟨base, -, -, -, hconduct, -⟩ := hof.handler hentry
      have hown := StaticSite.responds_respond disk base (Conduct.strip base request)
      have hreleased : response = answer (Conduct.passOn settings.mode.maxAge
          (Conduct.strip base request).uri.path
          (StaticSite.respond disk base (Conduct.strip base request))) := by
        rw [hresponse, hentry, respond, Handler.handle, hconduct, Conduct.handle]
        rfl
      have hmine := hpassed (Conduct.strip base request).uri.path _ hown.ne_of_mem_headers
      rw [← hreleased] at hmine
      exact ⟨.inr ⟨handler, base, rfl, hconduct, hown.status_eq_404_iff, hreleased, hmine⟩,
        hpassed, hmine.marked⟩

/-- A file is marked with a week; where it is not there yet, the answer is not marked at all. -/
theorem marked_iff_delivers_site :
    ∃ s, ofDocument siteSettings site ⟨[]⟩ (.empty []) = .ok s ∧
      siteVisits.map (fun visit => (s.dispatch visit.1 visit.2).1.status) = [404, 200] ∧
      siteVisits.map (fun visit => (s.dispatch visit.1 visit.2).1.headers.filter
        (·.1 == "cache-control")) = [[], [("cache-control", "public, max-age=604800")]] := by
  have hstarts : (ofDocument siteSettings site ⟨[]⟩ (.empty [])).isOk = true := by
    decide +kernel
  have hstatus : siteVisits.map (fun visit =>
      (freshResponse siteSettings site ⟨[]⟩ visit.1 visit.2).status) = [404, 200] := by
    cbv
  cases hs : ofDocument siteSettings site ⟨[]⟩ (.empty []) with
  | error e =>
      rw [hs] at hstarts
      exact absurd hstarts (by simp [Except.isOk, Except.toBool])
  | ok s =>
      simp only [freshResponse_eq, ← ((of_ofDocument hs).dispatch _ _).1] at hstatus
      have hmarks := fun disk request => (marked_iff_delivers hs [] disk request).2.2
      simp only [dispatchAll] at hmarks
      have hweek : Conduct.cacheControl siteSettings.mode.maxAge = "public, max-age=604800" := by
        decide +kernel
      refine ⟨s, rfl, hstatus, ?_⟩
      simp only [siteVisits, List.map_cons, List.map_nil, List.cons.injEq, and_true] at hstatus
      obtain ⟨hmissing, hfound⟩ := hstatus
      simp [siteVisits, hmarks, Response.isSuccess, hmissing, hfound, hweek]

end Server

end Signpost
