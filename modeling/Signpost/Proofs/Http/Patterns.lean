import Signpost.Http.Route

/-!
Which texts are patterns.  What spells a pattern is written down as a grammar on the characters
of a text, and the reading of patterns, which goes from place to place over characters that have
been unescaped before, is exact for it.
-/

namespace Signpost

namespace RoutePattern

variable {name more chars : List Char} {parts : List RoutePart} {place : Place}

/-- What stands in a name behind its first character: neither asterisks nor slashes, and closing
braces in pairs only. -/
inductive NameEnd : List Char → Prop where
  | done : NameEnd []
  | braces {more : List Char} : NameEnd more → NameEnd ('\x7d' :: '\x7d' :: more)
  | plain {c : Char} {more : List Char} :
      c ≠ '\x7d' → endsName c = false → NameEnd more → NameEnd (c :: more)

/-- The characters spell these parts. -/
inductive Spells : List Char → List RoutePart → Prop where
  | done : Spells [] []
  | opening {more : List Char} {parts : List RoutePart} :
      Spells more parts → Spells ('\x7b' :: '\x7b' :: more) (.literal '\x7b' :: parts)
  | closing {more : List Char} {parts : List RoutePart} :
      Spells more parts → Spells ('\x7d' :: '\x7d' :: more) (.literal '\x7d' :: parts)
  | literal {c : Char} {more : List Char} {parts : List RoutePart} :
      c ≠ '\x7b' → c ≠ '\x7d' → Spells more parts → Spells (c :: more) (.literal c :: parts)
  /-- The name of a segment, behind which stands a slash if anything. -/
  | segment {c : Char} {name more : List Char} {parts : List RoutePart} :
      c ≠ '\x7b' → c ≠ '\x7d' → c ≠ '*' → NameEnd name → (∀ d ∈ more.head?, d = '/') →
        Spells more parts → Spells ('\x7b' :: c :: (name ++ '\x7d' :: more)) (.segment :: parts)
  /-- The name of a rest, behind which stands nothing. -/
  | rest {name : List Char} :
      name ≠ [] → NameEnd name → Spells ('\x7b' :: '*' :: (name ++ ['\x7d'])) [.rest]

/-- A character that is not the first of two like braces stands for itself. -/
theorem unescape_cons {c : Char} (h : c = '\x7b' ∨ c = '\x7d' → more.head? ≠ some c) :
    unescape (c :: more) = (c, false) :: unescape more := by
  rw [unescape.eq_def]
  split
  · next heq =>
      obtain ⟨rfl, rfl⟩ := List.cons.inj heq
      exact absurd rfl (h (.inl rfl))
  · next heq =>
      obtain ⟨rfl, rfl⟩ := List.cons.inj heq
      exact absurd rfl (h (.inr rfl))
  · next heq =>
      obtain ⟨rfl, rfl⟩ := List.cons.inj heq
      rfl
  · contradiction

/-- What the third case of `unescape` says of its first character. -/
theorem unpaired {c : Char} (hopening : ∀ rest, c = '\x7b' → more = '\x7b' :: rest → False)
    (hclosing : ∀ rest, c = '\x7d' → more = '\x7d' :: rest → False) :
    c = '\x7b' ∨ c = '\x7d' → more.head? ≠ some c := by
  rintro (rfl | rfl) hhead <;> obtain ⟨rest, rfl⟩ := List.head?_eq_some_iff.mp hhead
  · exact hopening rest rfl rfl
  · exact hclosing rest rfl rfl

/-- In the name of a segment or of a rest. -/
def Place.InName (place : Place) : Prop := place = .segmentName ∨ place = .restName

theorem parts?_inName (h : place.InName) {c : Char} {escaped : Bool} (hc : endsName c = false)
    (hclose : c = '\x7d' → escaped = true) (rest : List (Char × Bool)) :
    parts? place ((c, escaped) :: rest) = parts? place rest := by
  obtain rfl | rfl := h <;> by_cases hbrace : c = '\x7d' <;> simp_all [parts?]

theorem parts?_inName_endsName (h : place.InName) {c : Char} (hc : endsName c = true)
    (escaped : Bool) (rest : List (Char × Bool)) :
    parts? place ((c, escaped) :: rest) = none := by
  have hbrace : c ≠ '\x7d' := by
    rintro rfl
    exact absurd hc (by decide)
  obtain rfl | rfl := h <;> simp [parts?, hbrace, hc]

theorem nameEnd_cons_iff {c : Char} (hc : c ≠ '\x7d') :
    NameEnd (c :: name) ↔ endsName c = false ∧ NameEnd name := by
  constructor
  · rintro (_ | _ | ⟨-, hends, hname⟩)
    · exact absurd rfl hc
    · exact ⟨hends, hname⟩
  · rintro ⟨hends, hname⟩
    exact .plain hc hends hname

/-- A name is passed over, up to the brace that closes it. -/
theorem parts?_name (h : place.InName) (hname : NameEnd name) (hmore : more.head? ≠ some '\x7d') :
    parts? place (unescape (name ++ '\x7d' :: more)) =
      parts? place (('\x7d', false) :: unescape more) := by
  induction name using unescape.induct with
  | case1 rest ih =>
      obtain ⟨-, hname⟩ := (nameEnd_cons_iff (by decide)).mp hname
      obtain ⟨hends, hname⟩ := (nameEnd_cons_iff (by decide)).mp hname
      exact (parts?_inName h hends (fun _ => rfl) _).trans (ih hname)
  | case2 rest ih =>
      cases hname with
      | braces hname => exact (parts?_inName h rfl (fun _ => rfl) _).trans (ih hname)
      | plain hc => exact absurd rfl hc
  | case3 c rest hopening hclosing ih =>
      cases hname with
      | braces => exact (hclosing _ rfl rfl).elim
      | plain hc hends hname =>
          have hsingle : c = '\x7b' ∨ c = '\x7d' → (rest ++ '\x7d' :: more).head? ≠ some c := by
            cases rest with
            | nil => exact fun _ hhead => hc (Option.some.inj hhead).symm
            | cons d others => simpa using unpaired hopening hclosing
          rw [List.cons_append, unescape_cons hsingle,
            parts?_inName h hends (fun hclose => absurd hclose hc), ih hname]
  | case4 => rw [List.nil_append, unescape_cons fun _ => hmore]

/-- Where parts come of it, a name comes to its end. -/
theorem exists_name (h : place.InName) (hparts : parts? place (unescape chars) = some parts) :
    ∃ name more, chars = name ++ '\x7d' :: more ∧ NameEnd name ∧ more.head? ≠ some '\x7d' := by
  induction chars using unescape.induct with
  | case1 rest ih =>
      rw [unescape, parts?_inName h rfl fun _ => rfl] at hparts
      obtain ⟨name, more, rfl, hname, hmore⟩ := ih hparts
      have hpair : NameEnd ('\x7b' :: '\x7b' :: name) :=
        .plain (by decide) rfl (.plain (by decide) rfl hname)
      exact ⟨_, more, rfl, hpair, hmore⟩
  | case2 rest ih =>
      rw [unescape, parts?_inName h rfl fun _ => rfl] at hparts
      obtain ⟨name, more, rfl, hname, hmore⟩ := ih hparts
      exact ⟨_, more, rfl, .braces hname, hmore⟩
  | case3 c rest hopening hclosing ih =>
      -- A closing brace that is not the first of two ends the name.
      by_cases hc : c = '\x7d'
      · subst hc
        exact ⟨[], rest, rfl, .done, unpaired hopening hclosing (.inr rfl)⟩
      · rw [unescape_cons (unpaired hopening hclosing)] at hparts
        cases hends : endsName c with
        | true =>
            rw [parts?_inName_endsName h hends] at hparts
            contradiction
        | false =>
            rw [parts?_inName h hends fun hclose => absurd hclose hc] at hparts
            obtain ⟨name, more, rfl, hname, hmore⟩ := ih hparts
            exact ⟨_, more, rfl, .plain hc hends hname, hmore⟩
  | case4 =>
      obtain rfl | rfl := h <;> contradiction

/-- Behind a segment the reading goes on as it does outside, if it goes on at all. -/
theorem parts?_segmentEnd_iff :
    parts? .segmentEnd (unescape chars) = some parts ↔
      (∀ c ∈ chars.head?, c = '/') ∧ parts? .outside (unescape chars) = some parts := by
  cases chars using unescape.fun_cases with
  | case1 rest => simp [unescape, parts?]
  | case2 rest => simp [unescape, parts?]
  | case3 c rest hopening hclosing =>
      rw [unescape_cons (unpaired hopening hclosing)]
      by_cases hc : c = '/'
      · subst hc
        simp [parts?]
      · simp [parts?, hc]
  | case4 => simp [unescape, parts?]

theorem parts?_segmentName_iff :
    parts? .segmentName (unescape chars) = some parts ↔
      ∃ name more tail, NameEnd name ∧ (∀ c ∈ more.head?, c = '/') ∧
        parts? .outside (unescape more) = some tail ∧
        chars = name ++ '\x7d' :: more ∧ parts = .segment :: tail := by
  constructor
  · intro h
    obtain ⟨name, more, rfl, hname, hmore⟩ := exists_name (.inl rfl) h
    rw [parts?_name (.inl rfl) hname hmore] at h
    obtain ⟨tail, hend, rfl⟩ := Option.map_eq_some_iff.mp h
    obtain ⟨hslash, htail⟩ := parts?_segmentEnd_iff.mp hend
    exact ⟨name, more, tail, hname, hslash, htail, rfl, rfl⟩
  · rintro ⟨name, more, tail, hname, hslash, htail, rfl, rfl⟩
    have hmore : more.head? ≠ some '\x7d' := fun hhead => absurd (hslash _ hhead) (by decide)
    rw [parts?_name (.inl rfl) hname hmore]
    exact Option.map_eq_some_iff.mpr ⟨tail, parts?_segmentEnd_iff.mpr ⟨hslash, htail⟩, rfl⟩

theorem parts?_restName_iff :
    parts? .restName (unescape chars) = some parts ↔
      ∃ name, NameEnd name ∧ chars = name ++ ['\x7d'] ∧ parts = [.rest] := by
  constructor
  · intro h
    obtain ⟨name, more, rfl, hname, hmore⟩ := exists_name (.inr rfl) h
    rw [parts?_name (.inr rfl) hname hmore] at h
    replace h : parts? .restEnd (unescape more) = some parts := h
    cases more using unescape.fun_cases with
    | case1 | case2 => contradiction
    | case3 c rest hopening hclosing =>
        rw [unescape_cons (unpaired hopening hclosing)] at h
        contradiction
    | case4 => exact ⟨name, hname, rfl, (Option.some.inj h).symm⟩
  · rintro ⟨name, hname, rfl, rfl⟩
    exact parts?_name (.inr rfl) hname (by simp)

/-- A name that stands behind an asterisk has a first character, which is none of those that end
names either. -/
theorem parts?_starred_iff {entries : List (Char × Bool)} :
    parts? .starred entries = some parts ↔
      entries.head? ≠ some ('\x7d', false) ∧ parts? .restName entries = some parts := by
  cases entries with
  | nil => simp [parts?]
  | cons entry rest =>
      obtain ⟨c, escaped⟩ := entry
      by_cases hclose : c = '\x7d' <;> cases escaped <;> cases hends : endsName c <;>
        simp [parts?, hclose, hends]

theorem head?_unescape (chars : List Char) : (unescape chars).head?.map Prod.fst = chars.head? := by
  cases chars using unescape.fun_cases with
  | case1 | case2 | case4 => rfl
  | case3 c rest hopening hclosing => rw [unescape_cons (unpaired hopening hclosing)]; rfl

theorem parts?_rest_iff :
    parts? .starred (unescape chars) = some parts ↔
      ∃ name, name ≠ [] ∧ NameEnd name ∧ chars = name ++ ['\x7d'] ∧ parts = [.rest] := by
  rw [parts?_starred_iff, parts?_restName_iff]
  constructor
  · rintro ⟨hopens, name, hname, rfl, rfl⟩
    refine ⟨name, ?_, hname, rfl, rfl⟩
    rintro rfl
    exact hopens rfl
  · rintro ⟨name, hne, hname, rfl, rfl⟩
    refine ⟨fun hhead => ?_, name, hname, rfl, rfl⟩
    cases hname with
    | done => exact hne rfl
    | braces => exact absurd (Option.some.inj hhead) (by simp)
    | @plain c rest hc =>
        have hfirst := head?_unescape (c :: rest ++ ['\x7d'])
        rw [hhead] at hfirst
        exact hc (Option.some.inj hfirst).symm

/-- What stands behind an opening brace is a segment, or behind an asterisk a rest. -/
theorem parts?_opening {c : Char} (hopen : c ≠ '\x7b') :
    parts? .outside (unescape ('\x7b' :: c :: more)) =
      if c = '\x7d' then none
      else parts? (if c = '*' then .starred else .segmentName) (unescape more) := by
  rw [unescape_cons (by simp [hopen])]
  by_cases hclose : c = '\x7d'
  · cases hentries : unescape (c :: more) with
    | nil => simp [parts?, hclose]
    | cons entry rest =>
        have hfirst := head?_unescape (c :: more)
        rw [hentries] at hfirst
        have hentry : entry.1 = '\x7d' := (Option.some.inj hfirst).trans hclose
        simp [parts?, hclose, hentry]
  · rw [unescape_cons (by rintro (rfl | rfl) <;> contradiction), if_neg hclose]
    by_cases hstar : c = '*' <;> simp [parts?, hclose, hstar]

theorem parts?_literal {c : Char} (hopen : c ≠ '\x7b') (hclose : c ≠ '\x7d') :
    parts? .outside (unescape (c :: more)) =
      (parts? .outside (unescape more)).map (.literal c :: ·) := by
  rw [unescape_cons (by simp [hopen, hclose])]
  simp [parts?, hopen, hclose]

/-- What stands behind an opening brace was spelled, if what stands behind it in turn was. -/
theorem spells_of_opening {c : Char} (hopen : c ≠ '\x7b')
    (h : parts? .outside (unescape ('\x7b' :: c :: more)) = some parts)
    (hmore : ∀ rest tail, rest.length < more.length →
      parts? .outside (unescape rest) = some tail → Spells rest tail) :
    Spells ('\x7b' :: c :: more) parts := by
  rw [parts?_opening hopen, Option.ite_none_left_eq_some] at h
  obtain ⟨hclose, h⟩ := h
  by_cases hstar : c = '*'
  · rw [if_pos hstar] at h
    obtain ⟨name, hne, hname, rfl, rfl⟩ := parts?_rest_iff.mp h
    subst hstar
    exact .rest hne hname
  · rw [if_neg hstar] at h
    obtain ⟨name, rest, tail, hname, hslash, htail, rfl, rfl⟩ := parts?_segmentName_iff.mp h
    have hshorter : rest.length < (name ++ '\x7d' :: rest).length := by
      simp only [List.length_append, List.length_cons]
      omega
    exact .segment hopen hclose hstar hname hslash (hmore rest tail hshorter htail)

theorem spells_of_parts? (h : parts? .outside (unescape chars) = some parts) :
    Spells chars parts := by
  -- Behind an opening brace the reading passes a whole name, so the induction is on the length.
  induction hlength : chars.length using Nat.strongRecOn generalizing chars parts with
  | ind n ih =>
      subst hlength
      cases chars using unescape.fun_cases with
      | case1 rest =>
          obtain ⟨tail, htail, rfl⟩ := Option.map_eq_some_iff.mp h
          exact .opening (ih _ (by simp only [List.length_cons]; omega) htail rfl)
      | case2 rest =>
          obtain ⟨tail, htail, rfl⟩ := Option.map_eq_some_iff.mp h
          exact .closing (ih _ (by simp only [List.length_cons]; omega) htail rfl)
      | case3 c rest hopening hclosing =>
          by_cases hopen : c = '\x7b'
          · subst hopen
            cases rest with
            | nil => contradiction
            | cons d more =>
                have hd : d ≠ '\x7b' := fun heq => hopening more rfl (by rw [heq])
                exact spells_of_opening hd h fun others tail hshorter htail =>
                  ih _ (by simp only [List.length_cons]; omega) htail rfl
          · by_cases hclose : c = '\x7d'
            · rw [unescape_cons (unpaired hopening hclosing)] at h
              simp [parts?, hclose] at h
            · rw [parts?_literal hopen hclose] at h
              obtain ⟨tail, htail, rfl⟩ := Option.map_eq_some_iff.mp h
              exact .literal hopen hclose (ih _ (by simp) htail rfl)
      | case4 =>
          obtain rfl := Option.some.inj h
          exact .done

/-- The reading is exact: parts come of the characters that spell them, and of no others. -/
theorem parts?_eq_some_iff :
    parts? .outside (unescape chars) = some parts ↔ Spells chars parts := by
  refine ⟨spells_of_parts?, fun h => ?_⟩
  induction h with
  | done => rfl
  | opening _ ih | closing _ ih => simp [unescape, parts?, ih]
  | literal hopen hclose _ ih => rw [parts?_literal hopen hclose, ih, Option.map_some]
  | segment hopen hclose hstar hname hslash _ ih =>
      rw [parts?_opening hopen, if_neg hclose, if_neg hstar]
      exact parts?_segmentName_iff.mpr ⟨_, _, _, hname, hslash, ih, rfl, rfl⟩
  | rest hne hname =>
      rw [parts?_opening (by decide), if_neg (by decide), if_pos rfl]
      exact parts?_rest_iff.mpr ⟨_, hne, hname, rfl, rfl⟩

/-- The characters, behind a slash that they begin with, are those of the pattern: no segment
begins with a colon or an asterisk, and not too many segments have names. -/
structure SpeltBy (pattern : RoutePattern) (chars : List Char) : Prop where
  unmarked : ∀ piece ∈ piecesBetween '/' chars, piece.head? ≠ some ':' ∧ piece.head? ≠ some '*'
  spells : Spells chars pattern.parts
  few : pattern.parts.count .segment ≤ maxSegments

theorem parse?_eq_some_iff {text : String} {pattern : RoutePattern} :
    parse? text = some pattern ↔ text.toList.head? = some '/' ∧ pattern.SpeltBy text.toList := by
  have hmarks : ¬((piecesBetween '/' text.toList).any fun s =>
        s.head? == some ':' || s.head? == some '*') = true ↔
      ∀ piece ∈ piecesBetween '/' text.toList,
        piece.head? ≠ some ':' ∧ piece.head? ≠ some '*' := by
    simp
  simp only [parse?, Option.ite_none_left_eq_some, Option.bind_eq_bind, Option.bind_eq_some_iff,
    Option.ite_none_right_eq_some, Decidable.not_not, hmarks]
  constructor
  · rintro ⟨hhead, hunmarked, parts, hparts, hfew, hpattern⟩
    obtain rfl := Option.some.inj hpattern
    exact ⟨hhead, hunmarked, parts?_eq_some_iff.mp hparts, hfew⟩
  · rintro ⟨hhead, hunmarked, hspells, hfew⟩
    exact ⟨hhead, hunmarked, pattern.parts, parts?_eq_some_iff.mpr hspells, hfew, rfl⟩

/-- Where nothing is a brace, every character spells itself. -/
theorem spells_literals (hopen : '\x7b' ∉ chars) (hclose : '\x7d' ∉ chars) :
    Spells chars (chars.map .literal) := by
  induction chars with
  | nil => exact .done
  | cons c rest ih =>
      exact .literal (List.ne_of_not_mem_cons hopen).symm (List.ne_of_not_mem_cons hclose).symm
        (ih (List.not_mem_of_not_mem_cons hopen) (List.not_mem_of_not_mem_cons hclose))

theorem speltBy_literals (hopen : '\x7b' ∉ chars) (hclose : '\x7d' ∉ chars)
    (hmarks : ∀ piece ∈ piecesBetween '/' chars,
      piece.head? ≠ some ':' ∧ piece.head? ≠ some '*') :
    SpeltBy ⟨chars.map .literal⟩ chars where
  unmarked := hmarks
  spells := spells_literals hopen hclose
  few := by
    have hnone : RoutePart.segment ∉ chars.map .literal := by simp
    rw [List.count_eq_zero_of_not_mem hnone]
    exact Nat.zero_le _

end RoutePattern

end Signpost
