import Signpost.Proofs.Disk.Canonical
import Signpost.Proofs.Path.Joining

/-!
What a path looked up from a document is spelled like.  The spelling is that of the location which
the steps of the path fold to from the directory of the document, so that each location has one
spelling, whatever it was looked up by.
-/

namespace Signpost

namespace Component

/-- The step that a component asks for. -/
def move : Component → Step
  | root => .stay
  | current => .stay
  | parent => .up
  | normal name => .down name

theorem text_of_ofPiece? {piece : String} {part : Component} (h : ofPiece? piece = some part) :
    part.text = piece := by
  unfold ofPiece? at h
  split at h
  · contradiction
  · split at h
    · next hparent =>
        obtain rfl := Option.some.inj h
        exact hparent.symm
    · obtain rfl := Option.some.inj h
      rfl

end Component

namespace Path

variable {p q : Path} {names : List String}

/-- The steps of a path that do not stay in place. -/
def moves (p : Path) : List Step := (Step.ofPath p).filter (· ≠ .stay)

/-- The location that `relative` stands for as seen from the directory in which `document` lies,
if nothing on the way is looked at. -/
def lookedUp (document : Path) (relative : String) : Location :=
  let directory :=
    if isAbsolute ⟨relative⟩ then [] else document.moves.dropLast.foldl Step.fold []
  (Step.ofPath ⟨relative⟩).foldl Step.fold directory

theorem foldl_filter_stay (steps : List Step) (start : Location) :
    (steps.filter (· ≠ .stay)).foldl Step.fold start = steps.foldl Step.fold start := by
  induction steps generalizing start with
  | nil => rfl
  | cons step rest ih =>
      cases step with
      | stay => simpa [Step.fold] using ih start
      | up => simpa [Step.fold] using ih start.dropLast
      | down name => simpa [Step.fold] using ih (start ++ [name])

theorem filter_filterMap_ofPiece? (pieces : List String) :
    (pieces.filterMap Step.ofPiece?).filter (· ≠ .stay) =
      (pieces.filterMap Component.ofPiece?).map Component.move := by
  induction pieces with
  | nil => rfl
  | cons piece rest ih =>
      by_cases hempty : piece = ""
      · simpa [hempty, Step.ofPiece?, Component.ofPiece?] using ih
      · by_cases hcurrent : piece = "."
        · simpa [hcurrent, Step.ofPiece?, Component.ofPiece?] using ih
        · by_cases hparent : piece = ".."
          · simpa [hparent, Step.ofPiece?, Component.ofPiece?, Component.move] using ih
          · simpa [hempty, hcurrent, hparent, Step.ofPiece?, Component.ofPiece?, Component.move]
              using ih

theorem moves_eq (p : Path) : p.moves = p.parts.map Component.move := by
  have hend : (if p.text.toList.getLast? = some '/' then [Step.stay] else []).filter
      (· ≠ .stay) = [] := by
    split <;> rfl
  rw [moves, Step.ofPath, List.filter_append, hend, List.append_nil, filter_filterMap_ofPiece?]
  rfl

/-- Normalization does with components what folding does with the steps that they ask for. -/
theorem reverse_foldl_foldComponent (parts : List Component) (stack : List String) :
    (parts.foldl (foldComponent true) stack).reverse =
      (parts.map Component.move).foldl Step.fold stack.reverse := by
  induction parts generalizing stack with
  | nil => rfl
  | cons part rest ih =>
      rw [List.foldl_cons, ih, List.map_cons, List.foldl_cons]
      congr 1
      cases part with
      | root => rfl
      | current => rfl
      | normal name => simp [foldComponent, Component.move, Step.fold]
      | parent => cases stack <;> simp [foldComponent, Component.move, Step.fold]

theorem normalNames_eq_moves (hp : p.isAbsolute = true) :
    p.normalNames = p.moves.foldl Step.fold [] := by
  rw [normalNames_eq, hp, reverse_foldl_foldComponent, moves_eq, List.reverse_nil]

theorem normalNames_join_eq_foldl (hp : p.isAbsolute = true) (hq : q.isAbsolute = false) :
    (p.join q).normalNames = (Step.ofPath q).foldl Step.fold p.normalNames := by
  rw [normalNames_join hp hq, reverse_foldl_foldComponent, ← moves_eq, moves, foldl_filter_stay,
    List.reverse_reverse]

/-! ### The directory of a document -/

theorem filterMap_ofPiece?_text {parts : List Component} (h : ∀ part ∈ parts, part ∈ p.parts) :
    (parts.map Component.text).filterMap Component.ofPiece? = parts := by
  rw [List.filterMap_map]
  have hback : ∀ part ∈ parts, (Component.ofPiece? ∘ Component.text) part = some part := by
    intro part hpart
    obtain ⟨piece, -, hpiece⟩ := List.mem_filterMap.mp (h part hpart)
    rw [Function.comp_apply, Component.text_of_ofPiece? hpiece, hpiece]
  rw [List.filterMap_congr hback, List.filterMap_some]

theorem isPiece_text {part : Component} (h : part ∈ p.parts) : IsPiece part.text := by
  obtain ⟨piece, hmem, hpiece⟩ := List.mem_filterMap.mp h
  rw [Component.text_of_ofPiece? hpiece]
  refine ⟨?_, no_slash_of_mem_pieces hmem⟩
  rintro rfl
  simp [Component.ofPiece?] at hpiece

/-- The directory in which an absolute path lies is the path without the last of its parts. -/
theorem parts_directory (hp : p.isAbsolute = true) :
    (p.parent?.getD ⟨"/"⟩).parts = p.parts.dropLast := by
  have hcomponents : p.components = .root :: p.parts := components_of_isAbsolute hp
  rcases List.eq_nil_or_concat p.parts with hnil | ⟨front, last, hparts⟩
  · rw [parent?, hcomponents, hnil]
    decide
  · rw [List.concat_eq_append] at hparts
    have hlast : last ≠ .root := by
      rintro rfl
      have hmem : Component.root ∈ p.parts := by simp [hparts]
      obtain ⟨piece, -, hpiece⟩ := List.mem_filterMap.mp hmem
      exact Component.ofPiece?_ne_root piece hpiece
    have hup : p.parent? = some (ofNames true (front.map Component.text)) := by
      rw [parent?, hcomponents, hparts]
      simp [ofComponents]
    have hfront : ∀ part ∈ front, part ∈ p.parts := by
      intro part hpart
      rw [hparts]
      exact List.mem_append_left _ hpart
    have hpieces : ∀ name ∈ front.map Component.text, IsPiece name := by
      intro name hname
      obtain ⟨part, hpart, rfl⟩ := List.mem_map.mp hname
      exact isPiece_text (hfront part hpart)
    rw [hup, Option.getD_some, parts_ofNames hpieces, filterMap_ofPiece?_text hfront, hparts,
      List.dropLast_concat]

theorem normalNames_directory (hp : p.isAbsolute = true) :
    (p.parent?.getD ⟨"/"⟩).normalNames = p.moves.dropLast.foldl Step.fold [] := by
  rw [normalNames_eq_moves (isAbsolute_directory (Or.inl hp)), moves_eq, moves_eq,
    parts_directory hp, List.map_dropLast]

/-! ### Looking up -/

theorem normalNames_join_directory (hp : p.isAbsolute = true) (relative : String) :
    ((p.parent?.getD ⟨"/"⟩).join ⟨relative⟩).normalNames = p.lookedUp relative := by
  unfold lookedUp
  cases hrelative : isAbsolute ⟨relative⟩ with
  | true =>
      rw [join, if_pos hrelative, if_pos rfl]
      exact normalNames_eq_foldl hrelative
  | false =>
      rw [normalNames_join_eq_foldl (isAbsolute_directory (Or.inl hp)) hrelative,
        normalNames_directory hp, if_neg Bool.false_ne_true]

theorem isAbsolute_join_directory (hp : p.isAbsolute = true) (relative : String) :
    ((p.parent?.getD ⟨"/"⟩).join ⟨relative⟩).isAbsolute = true :=
  isAbsolute_join (isAbsolute_directory (Or.inl hp)) _

theorem resolveAgainst_eq (hp : p.isAbsolute = true) (relative : String) :
    p.resolveAgainst relative = ofNames true (p.lookedUp relative) := by
  rw [resolveAgainst, normalize_of_isAbsolute (isAbsolute_join_directory hp relative),
    normalNames_join_directory hp]

theorem isName_of_mem_lookedUp (hp : p.isAbsolute = true) (relative : String) :
    ∀ name ∈ p.lookedUp relative, IsName name := by
  rw [← normalNames_join_directory hp]
  exact isName_of_mem_normalNames (isAbsolute_join_directory hp relative)

/-- The one spelling of a location: a slash before each name and none after the last. -/
structure IsCanonical (p : Path) : Prop where
  rooted : p.text.toList.head? = some '/'
  names : p.text = "/" ∨ ∀ piece ∈ p.pieces.tail, IsName piece
  unended : p.text = "/" ∨ p.text.toList.getLast? ≠ some '/'
  normal : p.normalize = p

theorem isCanonical_ofNames (h : ∀ name ∈ names, IsName name) :
    (ofNames true names).IsCanonical := by
  have hpieces : ∀ name ∈ names, IsPiece name := fun name hname => (h name hname).toIsPiece
  have hnormal : (ofNames true names).normalize = ofNames true names := by
    rw [normalize_of_isAbsolute (isAbsolute_ofNames_true names), normalNames_ofNames_true h]
  by_cases hnames : names = []
  · subst hnames
    exact ⟨by decide, Or.inl (by decide), Or.inl (by decide), hnormal⟩
  · refine ⟨by rw [toList_ofNames_true]; rfl, Or.inr ?_, Or.inr ?_, hnormal⟩
    · rw [pieces_ofNames_true hnames hpieces]
      exact h
    · exact getLast?_ofNames_true hnames hpieces

theorem ofNames_inj {others : List String} (h : ∀ name ∈ names, IsName name)
    (hothers : ∀ name ∈ others, IsName name) :
    (ofNames true names).text = (ofNames true others).text ↔ names = others := by
  constructor
  · intro htext
    have hsame : ofNames true names = ofNames true others := congrArg Path.mk htext
    rw [← normalNames_ofNames_true h, hsame, normalNames_ofNames_true hothers]
  · rintro rfl
    rfl

/-- What is looked up from an absolute document is spelled as the location that the steps fold to
from the directory of the document is spelled; so two spellings come out as one text if and only
if they stand for one location. -/
theorem resolveAgainst_canonical {document : Path} (h : document.isAbsolute = true)
    (relative : String) :
    let key := document.resolveAgainst relative
    key.text = "/" ++ "/".intercalate (document.lookedUp relative) ∧ key.IsCanonical ∧
      ∀ (other : Path) (spelling : String), other.isAbsolute = true →
        ((other.resolveAgainst spelling).text = key.text ↔
          other.lookedUp spelling = document.lookedUp relative) := by
  intro key
  have hkey : key = ofNames true (document.lookedUp relative) := resolveAgainst_eq h relative
  have hnames := isName_of_mem_lookedUp h relative
  rw [hkey]
  refine ⟨rfl, isCanonical_ofNames hnames, ?_⟩
  intro other spelling hother
  rw [resolveAgainst_eq hother]
  exact ofNames_inj (isName_of_mem_lookedUp hother spelling) hnames

/-- Two odd spellings from different documents. -/
theorem resolveAgainst_canonical_site :
    isAbsolute ⟨"/srv//app/./upward.yml"⟩ = true ∧ isAbsolute ⟨"/srv/x/../doc/."⟩ = true ∧
      IsCanonical (resolveAgainst ⟨"/srv//app/./upward.yml"⟩ "../../../etc/./www//") ∧
      lookedUp ⟨"/srv//app/./upward.yml"⟩ "../../../etc/./www//" = ["etc", "www"] ∧
      (resolveAgainst ⟨"/srv/x/../doc/."⟩ "//etc/x/../www").text =
        (resolveAgainst ⟨"/srv//app/./upward.yml"⟩ "../../../etc/./www//").text := by
  have habsolute : isAbsolute ⟨"/srv//app/./upward.yml"⟩ = true := by decide
  have hkey := resolveAgainst_canonical habsolute "../../../etc/./www//"
  exact ⟨habsolute, by decide, hkey.2.1, by decide,
    (hkey.2.2 ⟨"/srv/x/../doc/."⟩ "//etc/x/../www" (by decide)).mpr (by decide)⟩

end Path

end Signpost
