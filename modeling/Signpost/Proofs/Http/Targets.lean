import Mathlib.Data.List.TakeWhile
import Signpost.Http.Uri

/-!
Request targets.  The parts of a target that has been read hold the characters that may stand
there, and all of it is no longer than a target may be; so its path can be cut short in front of a
slash, all else being kept.
-/

namespace Signpost

namespace Uri

/-- A path and a query as they are written. -/
def written (path : String) : Option String → String
  | some query => path ++ "?" ++ query
  | none => path

/-- The path may stand in a target, and so may the query. -/
structure Spelled (path : String) (query : Option String) : Prop where
  path : ∀ c ∈ path.toList, isPathChar c = true
  query : ∀ own, query = some own → ∀ c ∈ own.toList, isQueryChar c = true

/-- A target such as texts spell.  A path that begins with a slash does not stand behind an authority
alone. -/
structure Valid (uri : Uri) : Prop where
  spelled : Spelled uri.path uri.query
  size : (written uri.path uri.query).utf8ByteSize ≤ maxSize
  form : uri.path.toList.head? = some '/' → uri.scheme.isSome ∨ uri.authority.isNone

theorem utf8ByteSize_written (path : String) (query : Option String) :
    (written path query).utf8ByteSize = path.utf8ByteSize + (written "" query).utf8ByteSize := by
  cases query with
  | none => rfl
  | some query => simp only [written, String.utf8ByteSize_append, String.empty_append, Nat.add_assoc]

theorem ne_of_isPathChar {c : Char} (h : isPathChar c = true) : c ≠ '?' ∧ c ≠ '#' := by
  constructor <;> rintro rfl <;> exact absurd h (by decide)

theorem ne_of_isQueryChar {c : Char} (h : isQueryChar c = true) : c ≠ '#' := by
  rintro rfl
  exact absurd h (by decide)

/-- What has been written is read again. -/
theorem pathAndQuery?_written {path : String} {query : Option String} (h : Spelled path query) :
    pathAndQuery? (written path query).toList = some (path, query) := by
  obtain ⟨hpath, hquery⟩ := h
  have hall : path.toList.all isPathChar = true := List.all_eq_true.mpr hpath
  have hmark : ∀ c ∈ path.toList, (c != '?') = true :=
    fun c hc => bne_iff_ne.mpr (ne_of_isPathChar (hpath c hc)).1
  have hhash : ∀ c ∈ path.toList, (c != '#') = true :=
    fun c hc => bne_iff_ne.mpr (ne_of_isPathChar (hpath c hc)).2
  cases query with
  | none =>
      have hwhole := List.takeWhile_eq_self_iff.mpr hhash
      have hown := List.takeWhile_eq_self_iff.mpr hmark
      simp [pathAndQuery?, written, hwhole, hown, hall]
  | some own =>
      have hown := hquery own rfl
      have hownAll : own.toList.all isQueryChar = true := List.all_eq_true.mpr hown
      have htext : (written path (some own)).toList = path.toList ++ '?' :: own.toList := by
        simp [written, String.toList_append]
      have hclear : ∀ c ∈ path.toList ++ '?' :: own.toList, (c != '#') = true := by
        intro c hc
        rcases List.mem_append.mp hc with hc | hc
        · exact hhash c hc
        · rcases List.mem_cons.mp hc with rfl | hc
          · decide
          · exact bne_iff_ne.mpr (ne_of_isQueryChar (hown c hc))
      have hwhole := List.takeWhile_eq_self_iff.mpr hclear
      have hfront : (path.toList ++ '?' :: own.toList).takeWhile (· != '?') = path.toList := by
        rw [List.takeWhile_append_of_pos hmark]
        simp
      simp only [pathAndQuery?, htext, hwhole, hfront, List.drop_left, hall, List.drop_succ_cons,
        List.drop_zero, hownAll, List.isEmpty_cons, String.ofList_toList]
      simp

/-- What has been read has been written so, as far as a fragment. -/
theorem toList_written {text : List Char} {path : String} {query : Option String}
    (h : pathAndQuery? text = some (path, query)) :
    (written path query).toList = text.takeWhile (· != '#') := by
  unfold pathAndQuery? at h
  dsimp only at h
  generalize text.takeWhile (· != '#') = clear at h ⊢
  have hparts := clear.takeWhile_append_dropWhile (p := (· != '?'))
  have hmark := List.head?_dropWhile_not (· != '?') clear
  generalize clear.takeWhile (· != '?') = front at h hparts
  generalize clear.dropWhile (· != '?') = rest at hmark hparts
  subst hparts
  rw [List.drop_left] at h
  split at h
  · obtain ⟨rfl, rfl⟩ := Prod.mk.inj (Option.some.inj h)
    cases rest with
    | nil => simp [written]
    | cons c more =>
        obtain rfl : c = '?' := by simpa using hmark
        simp [written, String.toList_append]
  · contradiction

theorem spelled_of_pathAndQuery? {text : List Char} {path : String} {query : Option String}
    (h : pathAndQuery? text = some (path, query)) : Spelled path query := by
  unfold pathAndQuery? at h
  dsimp only at h
  split at h
  · next hchars =>
      obtain ⟨rfl, rfl⟩ := Prod.mk.inj (Option.some.inj h)
      obtain ⟨hpath, hquery⟩ := Bool.and_eq_true_iff.mp hchars
      constructor
      · rw [String.toList_ofList]
        exact List.all_eq_true.mp hpath
      · intro own hown
        split at hown
        · contradiction
        · obtain rfl := Option.some.inj hown
          rw [String.toList_ofList]
          exact List.all_eq_true.mp hquery
  · contradiction

theorem utf8ByteSize_le_append (front rest : List Char) :
    (String.ofList front).utf8ByteSize ≤ (String.ofList (front ++ rest)).utf8ByteSize := by
  rw [String.ofList_append, String.utf8ByteSize_append]
  exact Nat.le_add_right _ _

theorem utf8ByteSize_drop_le (text : List Char) (n : Nat) :
    (String.ofList (text.drop n)).utf8ByteSize ≤ (String.ofList text).utf8ByteSize := by
  conv => rhs; rw [← List.take_append_drop n text, String.ofList_append, String.utf8ByteSize_append]
  exact Nat.le_add_left _ _

theorem utf8ByteSize_written_le {text : List Char} {path : String} {query : Option String}
    (h : pathAndQuery? text = some (path, query)) :
    (written path query).utf8ByteSize ≤ (String.ofList text).utf8ByteSize := by
  have hclear := utf8ByteSize_le_append (text.takeWhile (· != '#')) (text.dropWhile (· != '#'))
  rw [List.takeWhile_append_dropWhile, ← toList_written h, String.ofList_toList] at hclear
  exact hclear

/-- A text that names a scheme has three characters at least in front of what follows. -/
theorem utf8ByteSize_of_scheme? {text rest : List Char} {scheme : String}
    (h : scheme? text = some (scheme, rest)) :
    (String.ofList rest).utf8ByteSize + 3 ≤ (String.ofList text).utf8ByteSize := by
  unfold scheme? at h
  dsimp only at h
  split at h
  · next own hrest =>
      obtain ⟨-, rfl⟩ := Prod.mk.inj (Option.some.inj h)
      have hmark : (String.ofList [':', '/', '/']).utf8ByteSize = 3 := rfl
      rw [← List.take_append_drop (text.takeWhile isSchemeChar).length text, hrest,
        String.ofList_append, String.utf8ByteSize_append]
      change _ ≤ _ + (String.ofList ([':', '/', '/'] ++ own)).utf8ByteSize
      rw [String.ofList_append, String.utf8ByteSize_append, hmark]
      omega
  · contradiction

theorem spelled_single {c : Char} (h : isPathChar c = true) {query : Option String}
    (hquery : ∀ own, query = some own → ∀ c ∈ own.toList, isQueryChar c = true) :
    Spelled (String.ofList [c]) query := by
  constructor
  · rw [String.toList_ofList]
    exact List.forall_mem_singleton.mpr h
  · exact hquery

/-- Behind a scheme and an authority stands a slash at least, and there is room for it. -/
theorem valid_of_scheme? {text : String} {rest : List Char} {scheme path : String}
    {query : Option String} (hsize : text.utf8ByteSize ≤ maxSize)
    (hscheme : scheme? text.toList = some (scheme, rest)) {count : Nat}
    (hread : pathAndQuery? (rest.drop count) = some (path, query)) (authority : Option String) :
    Valid ⟨some scheme, authority, if path = "" then "/" else path, query⟩ := by
  have hspelled := spelled_of_pathAndQuery? hread
  have hwritten := utf8ByteSize_written_le hread
  have hbehind := utf8ByteSize_drop_le rest count
  have hmark := utf8ByteSize_of_scheme? hscheme
  rw [String.ofList_toList] at hmark
  -- The slash that is put in for an empty path was not counted, but the mark of the scheme was.
  by_cases hempty : path = ""
  · have hslash : ("/" : String).utf8ByteSize = 1 := rfl
    have hroom : (written "/" query).utf8ByteSize ≤ maxSize := by
      rw [hempty] at hwritten
      rw [utf8ByteSize_written, hslash]
      omega
    rw [if_pos hempty]
    exact ⟨spelled_single (by decide) hspelled.query, hroom, fun _ => .inl rfl⟩
  · have hroom : (written path query).utf8ByteSize ≤ maxSize := by omega
    rw [if_neg hempty]
    exact ⟨hspelled, hroom, fun _ => .inl rfl⟩

/-- Every target that a text spells is one. -/
theorem valid_of_parse? {text : String} {uri : Uri} (h : parse? text = some uri) : uri.Valid := by
  unfold parse? at h
  dsimp only at h
  split at h
  · contradiction
  · next hlong =>
    have hsize := Nat.not_lt.mp hlong
    split at h
    · obtain rfl := Option.some.inj h
      exact ⟨spelled_single (by decide) (by simp), by decide, by decide⟩
    · split at h
      · obtain ⟨⟨path, query⟩, hread, rfl⟩ := Option.map_eq_some_iff.mp h
        have hwritten := utf8ByteSize_written_le hread
        rw [String.ofList_toList] at hwritten
        exact ⟨spelled_of_pathAndQuery? hread, Nat.le_trans hwritten hsize, fun _ => .inr rfl⟩
      · split at h
        · next scheme rest hscheme =>
            split at h
            · contradiction
            · obtain ⟨⟨path, query⟩, hread, rfl⟩ := Option.map_eq_some_iff.mp h
              exact valid_of_scheme? hsize hscheme hread _
        · split at h
          · contradiction
          · obtain rfl := Option.some.inj h
            exact ⟨⟨by simp, by simp⟩, Nat.zero_le _, by simp⟩

/-- The path of a target can be cut short in front of a slash. -/
theorem Valid.withPath?_eq_some {uri : Uri} (h : uri.Valid) {front rest : String}
    (hpath : uri.path = front ++ rest) (hfront : uri.path.toList.head? = some '/')
    (hrest : rest.toList.head? = some '/') :
    uri.withPath? rest = some { uri with path := rest } := by
  have hspelled : Spelled rest uri.query := by
    refine ⟨fun c hc => h.spelled.path c ?_, h.spelled.query⟩
    rw [hpath, String.toList_append]
    exact List.mem_append_right _ hc
  have hsize : ¬ maxSize < (written rest uri.query).utf8ByteSize := by
    have hwhole := h.size
    rw [utf8ByteSize_written, hpath, String.utf8ByteSize_append] at hwhole
    rw [utf8ByteSize_written]
    omega
  change (if maxSize < (written rest uri.query).utf8ByteSize then none
    else (pathAndQuery? (written rest uri.query).toList).bind _) = _
  rw [if_neg hsize, pathAndQuery?_written hspelled]
  exact if_pos ⟨hrest, h.form hfront⟩

end Uri

end Signpost
