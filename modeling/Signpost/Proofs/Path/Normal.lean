import Mathlib.Data.List.Basic
import Signpost.Path

/-!
Normal forms of paths.  A path made of names has these names for its components, and the
normal form of an absolute path is made of names; so one normal form lies under another if
and only if the names of the one begin with those of the other.
-/

namespace Signpost

/-- A piece of a path that leads somewhere. -/
structure IsPiece (piece : String) : Prop where
  ne_empty : piece ≠ ""
  no_slash : '/' ∉ piece.toList

/-- A piece of a path that stands for a name. -/
structure IsName (piece : String) : Prop extends IsPiece piece where
  ne_current : piece ≠ "."
  ne_parent : piece ≠ ".."

theorem IsPiece.toList_ne_nil {piece : String} (h : IsPiece piece) : piece.toList ≠ [] :=
  fun hnil => h.ne_empty (String.toList_eq_nil_iff.mp hnil)

theorem isPiece_parent : IsPiece ".." := ⟨by decide, by decide⟩

namespace Component

theorem ofPiece?_of_isName {piece : String} (h : IsName piece) :
    ofPiece? piece = some (.normal piece) := by
  simp [ofPiece?, h.ne_empty, h.ne_current, h.ne_parent]

theorem isName_of_ofPiece? {piece name : String} (hslash : '/' ∉ piece.toList)
    (h : ofPiece? piece = some (.normal name)) : IsName name := by
  unfold ofPiece? at h
  split at h
  · simp at h
  · next hpiece =>
      split at h
      · simp at h
      · next hparent =>
          obtain rfl : piece = name := by simpa using h
          obtain ⟨hempty, hcurrent⟩ := not_or.mp hpiece
          exact ⟨⟨hempty, hslash⟩, hcurrent, hparent⟩

theorem ofPiece?_ne_root (piece : String) : ofPiece? piece ≠ some .root := by
  unfold ofPiece?
  split
  · simp
  · split <;> simp

theorem exists_ofPiece? {piece : String} (hempty : piece ≠ "") (hcurrent : piece ≠ ".") :
    ∃ part, ofPiece? piece = some part := by
  unfold ofPiece?
  rw [if_neg (not_or.mpr ⟨hempty, hcurrent⟩)]
  split
  · exact ⟨.parent, rfl⟩
  · exact ⟨.normal piece, rfl⟩

end Component

namespace Path

variable {p q : Path} {names : List String}

/-! ### Pieces and components -/

theorem no_slash_of_mem_pieces {piece : String} (h : piece ∈ p.pieces) : '/' ∉ piece.toList := by
  obtain ⟨chars, hchars, rfl⟩ := List.mem_map.mp h
  rw [String.toList_ofList]
  exact not_mem_of_mem_piecesBetween hchars

theorem components_of_isAbsolute (h : p.isAbsolute = true) :
    p.components = .root :: p.pieces.filterMap Component.ofPiece? := by
  simp [components, h]

theorem root_not_mem_components (h : p.isAbsolute = false) : .root ∉ p.components := by
  intro hroot
  rcases List.mem_append.mp hroot with hfirst | hrest
  · rw [h] at hfirst
    split at hfirst
    · contradiction
    · split at hfirst <;> simp at hfirst
  · obtain ⟨piece, -, hpiece⟩ := List.mem_filterMap.mp hrest
    exact Component.ofPiece?_ne_root piece hpiece

theorem isUnder_iff : p.isUnder q = true ↔ q.components <+: p.components :=
  List.isPrefixOf_iff_prefix

/-- What lies under an absolute path is absolute. -/
theorem isAbsolute_of_isUnder (hq : q.isAbsolute = true) (h : p.isUnder q = true) :
    p.isAbsolute = true := by
  rw [isUnder_iff, components_of_isAbsolute hq] at h
  have hroot : Component.root ∈ p.components := h.mem List.mem_cons_self
  cases hp : p.isAbsolute with
  | true => rfl
  | false => exact absurd hroot (root_not_mem_components hp)

/-! ### Paths made of names -/

theorem toList_ofNames_true (names : List String) :
    (ofNames true names).text.toList = '/' :: ['/'].intercalate (names.map String.toList) := by
  simp [ofNames, String.toList_append, String.toList_intercalate]

@[simp]
theorem isAbsolute_ofNames_true (names : List String) : (ofNames true names).isAbsolute = true := by
  simp [isAbsolute, toList_ofNames_true]

theorem text_ne_empty {p : Path} (hp : p.isAbsolute = true) : p.text ≠ "" := by
  intro hempty
  rw [isAbsolute, hempty] at hp
  contradiction

theorem text_ofNames_true_ne_empty (names : List String) : (ofNames true names).text ≠ "" :=
  text_ne_empty (isAbsolute_ofNames_true names)

theorem isAbsolute_ofNames_false (h : ∀ name ∈ names, IsPiece name) :
    (ofNames false names).isAbsolute = false := by
  cases names with
  | nil => decide
  | cons first rest =>
      have hfirst := h first List.mem_cons_self
      obtain ⟨c, more, hchars⟩ := List.exists_cons_of_ne_nil hfirst.toList_ne_nil
      have hc : c ≠ '/' := by
        rintro rfl
        exact hfirst.no_slash (hchars ▸ List.mem_cons_self)
      cases rest with
      | nil => simp [isAbsolute, ofNames, hchars, hc]
      | cons second others =>
          simp [isAbsolute, ofNames, String.toList_intercalate, hchars, hc]

theorem map_ofList_intercalate (hne : names ≠ []) (h : ∀ name ∈ names, IsPiece name) :
    (piecesBetween '/' (['/'].intercalate (names.map String.toList))).map String.ofList =
      names := by
  have hslash : ∀ piece ∈ names.map String.toList, '/' ∉ piece := by
    intro piece hpiece
    obtain ⟨name, hname, rfl⟩ := List.mem_map.mp hpiece
    exact (h name hname).no_slash
  rw [piecesBetween_intercalate (by simpa using hne) hslash, List.map_map]
  simp

theorem pieces_ofNames_true (hne : names ≠ []) (h : ∀ name ∈ names, IsPiece name) :
    (ofNames true names).pieces = "" :: names := by
  rw [pieces, toList_ofNames_true, piecesBetween, if_pos rfl, List.map_cons,
    map_ofList_intercalate hne h]

theorem pieces_ofNames_false (hne : names ≠ []) (h : ∀ name ∈ names, IsPiece name) :
    (ofNames false names).pieces = names := by
  have htext : (ofNames false names).text.toList =
      ['/'].intercalate (names.map String.toList) := by
    simp [ofNames, String.toList_intercalate]
  rw [pieces, htext, map_ofList_intercalate hne h]

theorem filterMap_ofPiece?_names (h : ∀ name ∈ names, IsName name) :
    names.filterMap Component.ofPiece? = names.map .normal := by
  rw [← List.filterMap_eq_map]
  exact List.filterMap_congr fun name hname => Component.ofPiece?_of_isName (h name hname)

theorem components_ofNames_true (h : ∀ name ∈ names, IsName name) :
    (ofNames true names).components = .root :: names.map .normal := by
  rw [components_of_isAbsolute (isAbsolute_ofNames_true names)]
  cases names with
  | nil => decide
  | cons first rest =>
      rw [pieces_ofNames_true (List.cons_ne_nil first rest) fun name hname => (h name hname).toIsPiece,
        ← filterMap_ofPiece?_names h]
      rfl

theorem isUnder_ofNames_iff {as bs : List String} (ha : ∀ name ∈ as, IsName name)
    (hb : ∀ name ∈ bs, IsName name) :
    (ofNames true as).isUnder (ofNames true bs) = true ↔ bs <+: as := by
  rw [isUnder_iff, components_ofNames_true ha, components_ofNames_true hb,
    List.cons_prefix_cons, List.prefix_map_iff_of_injective]
  · simp
  · exact fun _ _ => Component.normal.inj

theorem intercalate_prefix {α : Type} (mark : List α) (front back : List (List α)) :
    mark.intercalate front <+: mark.intercalate (front ++ back) := by
  induction front with
  | nil => exact List.nil_prefix
  | cons first rest ih =>
      cases rest with
      | nil =>
          cases back with
          | nil => exact List.prefix_rfl
          | cons second others =>
              rw [List.intercalate_singleton, List.singleton_append, List.intercalate_cons_cons,
                List.append_assoc]
              exact List.prefix_append first _
      | cons second others =>
          rw [List.cons_append, List.cons_append, List.intercalate_cons_cons,
            List.intercalate_cons_cons]
          exact (List.prefix_append_right_inj _).mpr ih

theorem intercalate_concat {α : Type} (mark last : List α) {front : List (List α)}
    (hne : front ≠ []) :
    mark.intercalate (front ++ [last]) = mark.intercalate front ++ mark ++ last := by
  induction front with
  | nil => exact absurd rfl hne
  | cons first rest ih =>
      cases rest with
      | nil => simp
      | cons second others =>
          rw [List.cons_append, List.cons_append, List.intercalate_cons_cons, ← List.cons_append,
            ih (List.cons_ne_nil second others), List.intercalate_cons_cons]
          simp

theorem intercalate_concat_append {α : Type} (mark : List α) (front : List (List α))
    (last more : List α) :
    mark.intercalate (front ++ [last ++ more]) = mark.intercalate (front ++ [last]) ++ more := by
  cases front with
  | nil => simp
  | cons first rest =>
      rw [intercalate_concat mark _ (List.cons_ne_nil first rest),
        intercalate_concat mark _ (List.cons_ne_nil first rest), List.append_assoc _ last more]

/-- What has been put together from pieces ends as one of them does. -/
theorem exists_getLast?_intercalate {α : Type} (mark : List α) {pieces : List (List α)}
    (hne : pieces ≠ []) (h : ∀ piece ∈ pieces, piece ≠ []) :
    ∃ piece ∈ pieces, (mark.intercalate pieces).getLast? = piece.getLast? := by
  induction pieces with
  | nil => exact absurd rfl hne
  | cons first rest ih =>
      cases rest with
      | nil => exact ⟨first, List.mem_cons_self, by rw [List.intercalate_singleton]⟩
      | cons second others =>
          obtain ⟨piece, hpiece, hlast⟩ := ih (List.cons_ne_nil second others) fun piece hpiece =>
            h piece (List.mem_cons_of_mem first hpiece)
          refine ⟨piece, List.mem_cons_of_mem first hpiece, ?_⟩
          have hend := List.getLast?_eq_some_getLast (h piece (List.mem_cons_of_mem first hpiece))
          rw [List.intercalate_cons_cons, List.getLast?_append, hlast, hend]
          rfl

/-- A path of pieces does not end with a slash. -/
theorem getLast?_ofNames_true (hne : names ≠ []) (h : ∀ name ∈ names, IsPiece name) :
    (ofNames true names).text.toList.getLast? ≠ some '/' := by
  have hpieces : ∀ piece ∈ names.map String.toList, piece ≠ [] ∧ '/' ∉ piece := by
    intro piece hpiece
    obtain ⟨name, hname, rfl⟩ := List.mem_map.mp hpiece
    exact ⟨(h name hname).toList_ne_nil, (h name hname).no_slash⟩
  obtain ⟨piece, hpiece, hlast⟩ := exists_getLast?_intercalate ['/']
    (by simpa using hne) fun piece hpiece => (hpieces piece hpiece).1
  obtain ⟨hnil, hslash⟩ := hpieces piece hpiece
  rw [toList_ofNames_true, List.getLast?_cons, hlast, List.getLast?_eq_some_getLast hnil]
  intro hend
  exact hslash (Option.some.inj hend ▸ List.getLast_mem hnil)

/-- Where names are added to a path of names, its text is continued. -/
theorem text_ofNames_prefix {as bs : List String} (h : bs <+: as) :
    (ofNames true bs).text.toList <+: (ofNames true as).text.toList := by
  obtain ⟨more, rfl⟩ := h
  rw [toList_ofNames_true, toList_ofNames_true, List.map_append, List.cons_prefix_cons]
  exact ⟨rfl, intercalate_prefix _ _ _⟩

/-- A name is added to a path of names. -/
theorem join_ofNames_true {name : String} (hnames : ∀ name ∈ names, IsPiece name)
    (hname : IsPiece name) :
    (ofNames true names).join ⟨name⟩ = ofNames true (names ++ [name]) := by
  have hrelative : isAbsolute ⟨name⟩ = false := by
    obtain ⟨c, rest, hchars⟩ := List.exists_cons_of_ne_nil hname.toList_ne_nil
    have hc : c ≠ '/' := by
      rintro rfl
      exact hname.no_slash (hchars ▸ List.mem_cons_self)
    simp [isAbsolute, hchars, hc]
  rw [join, hrelative, if_neg Bool.false_ne_true]
  cases names with
  | nil => simp [ofNames]
  | cons first rest =>
      have hlast := getLast?_ofNames_true (List.cons_ne_nil first rest) hnames
      rw [if_neg (not_or.mpr ⟨text_ofNames_true_ne_empty _, hlast⟩), Path.mk.injEq,
        ← String.toList_inj, toList_ofNames_true, List.map_append, List.map_singleton,
        intercalate_concat _ _ (by simp), String.toList_append, String.toList_append,
        toList_ofNames_true]
      simp

/-- Names are added one after the other. -/
theorem foldl_join_ofNames_true {more : List String} (hnames : ∀ name ∈ names, IsPiece name)
    (hmore : ∀ name ∈ more, IsPiece name) :
    more.foldl (fun p name => p.join ⟨name⟩) (ofNames true names) =
      ofNames true (names ++ more) := by
  induction more generalizing names with
  | nil => simp
  | cons name rest ih =>
      obtain ⟨hname, hrest⟩ := List.forall_mem_cons.mp hmore
      have hjoined : ∀ other ∈ names ++ [name], IsPiece other :=
        List.forall_mem_append.mpr ⟨hnames, List.forall_mem_singleton.mpr hname⟩
      rw [List.foldl_cons, join_ofNames_true hnames hname, ih hjoined hrest, List.append_assoc,
        List.singleton_append]

/-! ### Normal forms -/

theorem mem_foldl_foldComponent {absolute : Bool} {parts : List Component} {stack : List String}
    {name : String} (h : name ∈ parts.foldl (foldComponent absolute) stack) :
    name ∈ stack ∨ .normal name ∈ parts ∨ absolute = false ∧ name = ".." := by
  induction parts generalizing stack with
  | nil => exact .inl h
  | cons part rest ih =>
      rcases ih h with hstack | hrest | hup
      · cases part with
        | root => exact .inl hstack
        | current => exact .inl hstack
        | parent =>
            cases stack with
            | nil =>
                cases absolute with
                | true => exact .inl hstack
                | false => exact .inr (.inr ⟨rfl, List.mem_singleton.mp hstack⟩)
            | cons top below => exact .inl (List.mem_cons_of_mem top hstack)
        | normal other =>
            rcases List.mem_cons.mp hstack with rfl | hstack
            · exact .inr (.inl List.mem_cons_self)
            · exact .inl hstack
      · exact .inr (.inl (List.mem_cons_of_mem part hrest))
      · exact .inr (.inr hup)

theorem isName_of_normal_mem_components {name : String} (h : .normal name ∈ p.components) :
    IsName name := by
  rcases List.mem_append.mp h with hfirst | hrest
  · split at hfirst
    · simp at hfirst
    · split at hfirst <;> simp at hfirst
  · obtain ⟨piece, hmem, hpiece⟩ := List.mem_filterMap.mp hrest
    exact Component.isName_of_ofPiece? (no_slash_of_mem_pieces hmem) hpiece

/-- In a normal form `..` stands only where a relative path climbs. -/
theorem isName_or_parent_of_mem_normalNames {name : String} (h : name ∈ p.normalNames) :
    IsName name ∨ p.isAbsolute = false ∧ name = ".." := by
  rcases mem_foldl_foldComponent (List.mem_reverse.mp h) with hnil | hname | hup
  · exact absurd hnil List.not_mem_nil
  · exact .inl (isName_of_normal_mem_components hname)
  · exact .inr hup

theorem isName_of_mem_normalNames (hp : p.isAbsolute = true) :
    ∀ name ∈ p.normalNames, IsName name := by
  intro name hname
  rcases isName_or_parent_of_mem_normalNames hname with h | ⟨hrelative, -⟩
  · exact h
  · rw [hp] at hrelative
    contradiction

theorem normalize_of_isAbsolute (hp : p.isAbsolute = true) :
    p.normalize = ofNames true p.normalNames := by
  rw [normalize, hp]

theorem isUnder_normalize_iff (hp : p.isAbsolute = true) (hq : q.isAbsolute = true) :
    p.normalize.isUnder q.normalize = true ↔ q.normalNames <+: p.normalNames := by
  rw [normalize_of_isAbsolute hp, normalize_of_isAbsolute hq,
    isUnder_ofNames_iff (isName_of_mem_normalNames hp) (isName_of_mem_normalNames hq)]

/-- The normal form of an absolute path has no piece `.` and no piece `..`. -/
theorem pieces_normalize (hp : p.isAbsolute = true) :
    ∀ piece ∈ p.normalize.pieces, piece ≠ "." ∧ piece ≠ ".." := by
  rw [normalize_of_isAbsolute hp]
  have hnames := isName_of_mem_normalNames hp
  cases hcases : p.normalNames with
  | nil => decide
  | cons first rest =>
      rw [hcases] at hnames
      rw [pieces_ofNames_true (List.cons_ne_nil first rest) fun name h => (hnames name h).toIsPiece]
      intro piece hpiece
      rcases List.mem_cons.mp hpiece with rfl | hpiece
      · decide
      · exact ⟨(hnames piece hpiece).ne_current, (hnames piece hpiece).ne_parent⟩

theorem isAbsolute_normalize (p : Path) : p.normalize.isAbsolute = p.isAbsolute := by
  cases hp : p.isAbsolute with
  | true => rw [normalize_of_isAbsolute hp, isAbsolute_ofNames_true]
  | false =>
      rw [normalize, hp]
      refine isAbsolute_ofNames_false fun name hname => ?_
      rcases isName_or_parent_of_mem_normalNames hname with h | ⟨-, rfl⟩
      · exact h.toIsPiece
      · exact isPiece_parent

theorem isAbsolute_join (hp : p.isAbsolute = true) (q : Path) : (p.join q).isAbsolute = true := by
  unfold join
  split
  · next hq => exact hq
  · obtain ⟨rest, hrest⟩ : ∃ rest, p.text.toList = '/' :: rest := by
      simpa [isAbsolute, List.head?_eq_some_iff] using hp
    split <;> simp [isAbsolute, String.toList_append, hrest]

theorem foldl_foldComponent_names (absolute : Bool) (names stack : List String) :
    (names.map Component.normal).foldl (foldComponent absolute) stack = names.reverse ++ stack := by
  induction names generalizing stack with
  | nil => rfl
  | cons name rest ih =>
      rw [List.map_cons, List.foldl_cons, ih, foldComponent, List.reverse_cons, List.append_assoc,
        List.singleton_append]

theorem normalNames_ofNames_true (h : ∀ name ∈ names, IsName name) :
    (ofNames true names).normalNames = names := by
  rw [normalNames, components_ofNames_true h, List.foldl_cons, foldComponent,
    foldl_foldComponent_names, List.append_nil, List.reverse_reverse]

/-- The normal form of an absolute path is its own normal form. -/
theorem normalize_normalize (hp : p.isAbsolute = true) : p.normalize.normalize = p.normalize := by
  have hnames := normalNames_ofNames_true (isName_of_mem_normalNames hp)
  rw [normalize_of_isAbsolute hp, normalize_of_isAbsolute (isAbsolute_ofNames_true _), hnames]

/-! ### Absolute paths -/

/-- What lies above an absolute path is absolute. -/
theorem isAbsolute_of_parent? (hp : p.isAbsolute = true) (h : p.parent? = some q) :
    q.isAbsolute = true := by
  unfold parent? at h
  rw [components_of_isAbsolute hp, List.reverse_cons] at h
  split at h
  · contradiction
  · contradiction
  · next last rest hroot hparts =>
      obtain rfl := Option.some.inj h
      cases habove : (p.pieces.filterMap Component.ofPiece?).reverse with
      | nil =>
          rw [habove, List.nil_append] at hparts
          exact absurd (List.cons.inj hparts).1.symm hroot
      | cons first above =>
          rw [habove, List.cons_append] at hparts
          rw [← (List.cons.inj hparts).2, List.reverse_append]
          exact isAbsolute_ofNames_true _

/-- A path is made absolute from an absolute directory, unless it is empty. -/
theorem isAbsolute_absolute {here : Path} (hhere : here.isAbsolute = true) (p : Path) :
    (p.absolute here).isAbsolute = true ∨ (p.absolute here).text = "" := by
  unfold absolute
  split
  · next h => exact h
  · generalize (p.pieces.filterMap Component.ofPiece?).map Component.text = names
    have hbase : (if names = [] then here else here.join (ofNames false names)).isAbsolute = true := by
      split
      · exact hhere
      · exact isAbsolute_join hhere _
    refine .inl ?_
    dsimp only
    split
    · exact isAbsolute_join hbase _
    · exact hbase

/-- The directory in which an absolute path lies, or the empty one, is absolute. -/
theorem isAbsolute_directory (h : p.isAbsolute = true ∨ p.text = "") :
    (p.parent?.getD ⟨"/"⟩).isAbsolute = true := by
  rcases h with h | h
  · cases hparent : p.parent? with
    | none => decide
    | some up => exact isAbsolute_of_parent? h hparent
  · obtain rfl : p = ⟨""⟩ := by rw [← h]
    decide

/-- What is looked up from an absolute path, or from the empty one, is absolute. -/
theorem isAbsolute_resolveAgainst {document : Path}
    (h : document.isAbsolute = true ∨ document.text = "") (relative : String) :
    (document.resolveAgainst relative).isAbsolute = true := by
  rw [resolveAgainst, isAbsolute_normalize]
  exact isAbsolute_join (isAbsolute_directory h) _

/-! ### Relative paths -/

/-- A relative path of which nothing is left has every path under it. -/
theorem isUnder_normalize_of_folded (hq : q.isAbsolute = false) (hfolded : q.normalNames = [])
    (p : Path) : p.isUnder q.normalize = true := by
  rw [normalize, hq, hfolded, isUnder_iff]
  exact List.nil_prefix

/-- A relative path of which something is left has no absolute path under it. -/
theorem not_isUnder_normalize (hp : p.isAbsolute = true) (hq : q.isAbsolute = false)
    (hkept : q.normalNames ≠ []) : p.isUnder q.normalize = false := by
  have hnames : ∀ name ∈ q.normalNames, IsPiece name ∧ name ≠ "." := by
    intro name hname
    rcases isName_or_parent_of_mem_normalNames hname with h | ⟨-, rfl⟩
    · exact ⟨h.toIsPiece, h.ne_current⟩
    · exact ⟨isPiece_parent, by decide⟩
  rw [normalize, hq]
  generalize q.normalNames = names at hkept hnames
  have hrelative := isAbsolute_ofNames_false fun name hname => (hnames name hname).1
  refine Bool.eq_false_iff.mpr fun hunder => ?_
  rw [isUnder_iff, components_of_isAbsolute hp] at hunder
  obtain ⟨first, rest, rfl⟩ := List.exists_cons_of_ne_nil hkept
  obtain ⟨hfirst, hcurrent⟩ := hnames first List.mem_cons_self
  obtain ⟨part, hpart⟩ := Component.exists_ofPiece? hfirst.ne_empty hcurrent
  have hmem : part ∈ (ofNames false (first :: rest)).components := by
    refine List.mem_append_right _ (List.mem_filterMap.mpr ⟨first, ?_, hpart⟩)
    rw [pieces_ofNames_false (List.cons_ne_nil first rest) fun name h => (hnames name h).1]
    exact List.mem_cons_self
  obtain ⟨other, more, hmore⟩ := List.exists_cons_of_ne_nil (List.ne_nil_of_mem hmem)
  rw [hmore, List.cons_prefix_cons] at hunder
  exact root_not_mem_components hrelative (hmore ▸ hunder.1 ▸ List.mem_cons_self)

end Path

end Signpost
