import Mathlib.Data.List.Induction
import Mathlib.Data.List.Nodup
import Signpost.Registry
import Signpost.Resolver.Simple

/-!
Registration.  A registry takes what it is offered unless the telltale is taken; so of every
telltale it holds the resolver that was offered first.  What a definition is routed to depends on
the telltales among its names alone, and not on the order in which resolvers were registered.
-/

namespace Signpost

theorem Definition.has_iff_mem_names {d : Definition} {name : String} :
    d.has name = true ↔ name ∈ d.names := by
  rw [has, get?, List.lookup_isSome_iff, names, List.mem_map]
  constructor
  · rintro ⟨property, hproperty, hname⟩
    exact ⟨property, hproperty, (beq_iff_eq.mp hname).symm⟩
  · rintro ⟨property, hproperty, rfl⟩
    exact ⟨property, hproperty, beq_self_eq_true _⟩

namespace Registry

variable {r : Registry} {resolver : Resolver} {telltale : String}

/-! ### Offers -/

/-- The registry after an offer; where the resolver is refused it is as before. -/
def offered (r : Registry) (resolver : Resolver) : Registry :=
  match r.register resolver with
  | .ok next => next
  | .error _ => r

/-- The registry after these offers, one after the other. -/
def ofOffers (offers : List Resolver) : Registry :=
  offers.foldl offered empty

theorem find?_eq_none_iff : r.find? telltale = none ↔ telltale ∉ r.telltales := by
  rw [find?, List.find?_eq_none, telltales, List.mem_map, not_exists]
  apply forall_congr'
  intro resolver
  rw [beq_iff_eq, not_and]

theorem register_of_not_mem (h : resolver.telltale ∉ r.telltales) :
    r.register resolver = .ok ⟨r.resolvers ++ [resolver]⟩ := by
  rw [register, find?_eq_none_iff.mpr h]

/-- A telltale that is taken is refused, with the resolver that has it. -/
theorem register_of_mem (h : resolver.telltale ∈ r.telltales) :
    ∃ first, r.find? resolver.telltale = some first ∧ r.register resolver =
      .error (.duplicateTelltale resolver.telltale first.sort resolver.sort) := by
  cases hfind : r.find? resolver.telltale with
  | none => exact absurd h (find?_eq_none_iff.mp hfind)
  | some first =>
      refine ⟨first, rfl, ?_⟩
      rw [register, hfind]

theorem offered_of_mem (h : resolver.telltale ∈ r.telltales) : r.offered resolver = r := by
  obtain ⟨first, -, hrefused⟩ := register_of_mem h
  rw [offered, hrefused]

theorem offered_of_not_mem (h : resolver.telltale ∉ r.telltales) :
    r.offered resolver = ⟨r.resolvers ++ [resolver]⟩ := by
  rw [offered, register_of_not_mem h]

/-- One offer: the telltales stay different. -/
theorem nodup_offered (h : r.telltales.Nodup) (resolver : Resolver) :
    (r.offered resolver).telltales.Nodup := by
  by_cases htaken : resolver.telltale ∈ r.telltales
  · rw [offered_of_mem htaken]
    exact h
  · rw [offered_of_not_mem htaken, telltales, List.map_append, List.map_singleton,
      ← List.concat_eq_append]
    exact h.concat htaken

theorem nodup_ofOffers (offers : List Resolver) : (ofOffers offers).telltales.Nodup := by
  -- An offer is made to whatever is held by then, so the induction is over every start.
  suffices h : ∀ r : Registry, r.telltales.Nodup →
      (offers.foldl offered r).telltales.Nodup from h empty List.nodup_nil
  induction offers with
  | nil => exact fun r h => h
  | cons resolver rest ih => exact fun r h => ih _ (nodup_offered h resolver)

theorem ofOffers_concat (offers : List Resolver) (resolver : Resolver) :
    ofOffers (offers ++ [resolver]) = (ofOffers offers).offered resolver := by
  rw [ofOffers, List.foldl_append]
  rfl

/-- The later resolver has the telltale of the first one. -/
def repeats (later first : Resolver) : Bool :=
  first.telltale == later.telltale

theorem any_repeats : r.resolvers.reverse.any (repeats resolver) = true ↔
    resolver.telltale ∈ r.telltales := by
  rw [List.any_reverse, List.any_eq_true, telltales, List.mem_map]
  simp only [repeats, beq_iff_eq]

/-- Whatever is held already, offers add the resolvers that are the first of their telltale. -/
theorem resolvers_foldl_offered (offers : List Resolver) (r : Registry) :
    (offers.foldl offered r).resolvers =
      List.eraseDupsBy.loop repeats offers r.resolvers.reverse := by
  induction offers generalizing r with
  | nil => exact (List.reverse_reverse _).symm
  | cons resolver rest ih =>
      rw [List.foldl_cons, ih, List.eraseDupsBy.loop]
      by_cases htaken : resolver.telltale ∈ r.telltales
      · rw [offered_of_mem htaken, any_repeats.mpr htaken]
      · rw [offered_of_not_mem htaken, List.reverse_append, List.reverse_singleton,
          Bool.eq_false_iff.mpr (mt any_repeats.mp htaken)]
        rfl

theorem resolvers_ofOffers (offers : List Resolver) :
    (ofOffers offers).resolvers = offers.eraseDupsBy repeats :=
  resolvers_foldl_offered offers empty

/-- The resolver of a telltale is the one that was offered first. -/
theorem find?_ofOffers (offers : List Resolver) (telltale : String) :
    (ofOffers offers).find? telltale = offers.find? (·.telltale == telltale) := by
  induction offers using List.reverseRecOn with
  | nil => rfl
  | append_singleton offers resolver ih =>
      rw [ofOffers_concat, List.find?_append, ← ih]
      by_cases htaken : resolver.telltale ∈ (ofOffers offers).telltales
      · rw [offered_of_mem htaken]
        cases hfind : (ofOffers offers).find? telltale with
        | some first => rfl
        | none =>
            have hother : telltale ∉ (ofOffers offers).telltales := find?_eq_none_iff.mp hfind
            have hne : resolver.telltale ≠ telltale := fun h => hother (h ▸ htaken)
            rw [List.find?_singleton, if_neg (by simpa using hne)]
            rfl
      · rw [offered_of_not_mem htaken, find?, List.find?_append]
        rfl

theorem mem_telltales_ofOffers (offers : List Resolver) :
    telltale ∈ (ofOffers offers).telltales ↔ telltale ∈ offers.map Resolver.telltale := by
  rw [← not_iff_not, ← find?_eq_none_iff, find?_ofOffers, List.find?_eq_none, List.mem_map,
    not_exists]
  apply forall_congr'
  intro resolver
  rw [beq_iff_eq, not_and]

/-! ### Routing -/

/-- The registered telltales among the names of a definition's properties. -/
def carried (r : Registry) (d : Definition) : List String :=
  r.telltales.filter (· ∈ d.names)

theorem map_telltale_matches (r : Registry) (d : Definition) :
    (r.resolvers.filter fun resolver => d.has resolver.telltale).map Resolver.telltale =
      r.carried d := by
  rw [carried, telltales, List.filter_map]
  apply congrArg (List.map Resolver.telltale)
  apply List.filter_congr
  intro resolver _
  rw [Bool.eq_iff_iff, Definition.has_iff_mem_names]
  simp

theorem lookup_eq_ok_iff {d : Definition} :
    r.lookup d = .ok resolver ↔ resolver ∈ r.resolvers ∧ r.carried d = [resolver.telltale] := by
  rw [← map_telltale_matches, lookup]
  constructor
  · intro h
    split at h
    · next own hmatches =>
        obtain rfl := Except.ok.inj h
        have hmem : own ∈ r.resolvers.filter fun other => d.has other.telltale :=
          hmatches ▸ List.mem_singleton_self own
        rw [hmatches]
        exact ⟨List.mem_of_mem_filter hmem, rfl⟩
    · contradiction
    · contradiction
  · rintro ⟨hmem, honly⟩
    obtain ⟨own, hmatches, htelltale⟩ := List.map_eq_singleton_iff.mp honly
    have hhas : d.has resolver.telltale = true := by
      have hown : own ∈ r.resolvers.filter fun other => d.has other.telltale :=
        hmatches ▸ List.mem_singleton_self own
      rw [← htelltale]
      exact (List.mem_filter.mp hown).2
    have hself : resolver ∈ r.resolvers.filter fun other => d.has other.telltale :=
      List.mem_filter.mpr ⟨hmem, hhas⟩
    rw [hmatches] at hself ⊢
    rw [List.mem_singleton.mp hself]

theorem lookup_eq_error_iff {d : Definition} {e : ResolveError} :
    r.lookup d = .error e ↔
      r.carried d = [] ∧ e = .noMatch d r.telltales ∨
        2 ≤ (r.carried d).length ∧ e = .ambiguous d (r.carried d) := by
  rw [← map_telltale_matches, lookup]
  generalize (r.resolvers.filter fun resolver => d.has resolver.telltale) = found
  rcases found with _ | ⟨first, _ | ⟨second, more⟩⟩
  · rw [or_iff_left (by simp), and_iff_right List.map_nil]
    exact ⟨fun h => (Except.error.inj h).symm, fun h => h ▸ rfl⟩
  · simp
  · rw [or_iff_right (by simp), and_iff_right (by simp)]
    exact ⟨fun h => (Except.error.inj h).symm, fun h => h ▸ rfl⟩

/-- What two registries make of a definition: the same resolver, or failures of one kind that name
the same telltales in some order. -/
inductive Agrees (d : Definition) :
    Except ResolveError Resolver → Except ResolveError Resolver → Prop where
  | found (resolver : Resolver) : Agrees d (.ok resolver) (.ok resolver)
  | noMatch {known others : List String} (h : known.Perm others) :
      Agrees d (.error (.noMatch d known)) (.error (.noMatch d others))
  | ambiguous {telltales others : List String} (h : telltales.Perm others) :
      Agrees d (.error (.ambiguous d telltales)) (.error (.ambiguous d others))

/-- The order of the resolvers does not matter to what a definition is routed to. -/
theorem agrees_lookup {q : Registry} (h : r.resolvers.Perm q.resolvers) (d : Definition) :
    Agrees d (r.lookup d) (q.lookup d) := by
  have hmatches := h.filter fun resolver => d.has resolver.telltale
  have htelltales : r.telltales.Perm q.telltales := h.map Resolver.telltale
  rw [lookup, lookup]
  generalize (r.resolvers.filter fun resolver => d.has resolver.telltale) = own at hmatches ⊢
  generalize (q.resolvers.filter fun resolver => d.has resolver.telltale) = other at hmatches ⊢
  rcases own with _ | ⟨first, _ | ⟨second, more⟩⟩
  · obtain rfl := hmatches.nil_eq
    exact .noMatch htelltales
  · rw [List.perm_singleton.mp hmatches.symm]
    exact .found first
  · have hlength := hmatches.length_eq
    rcases other with _ | ⟨first', _ | ⟨second', more'⟩⟩
    · simp at hlength
    · simp at hlength
    · exact .ambiguous (hmatches.map Resolver.telltale)

/-- Whatever is offered to a registry, one after the other: it holds the first resolver of each
telltale, in the order in which these came; an offer fails exactly if the telltale has been
offered before, and changes nothing then.  A definition is routed to the resolver of the only
registered telltale among the names of its properties; if there is none, or several, it is told so,
with the list of these; and registries that hold the same resolvers agree on every definition. -/
theorem unambiguous (offers : List Resolver) :
    let r := ofOffers offers
    r.telltales.Nodup ∧ r.resolvers = offers.eraseDupsBy repeats ∧
      (∀ telltale, r.find? telltale = offers.find? (·.telltale == telltale)) ∧
      (∀ resolver : Resolver,
        (resolver.telltale ∈ offers.map Resolver.telltale →
          (∃ first, r.find? resolver.telltale = some first ∧ r.register resolver =
            .error (.duplicateTelltale resolver.telltale first.sort resolver.sort)) ∧
          ofOffers (offers ++ [resolver]) = r) ∧
        (resolver.telltale ∉ offers.map Resolver.telltale →
          r.register resolver = .ok (ofOffers (offers ++ [resolver])))) ∧
      (∀ d resolver, r.lookup d = .ok resolver ↔
        resolver ∈ r.resolvers ∧ r.carried d = [resolver.telltale]) ∧
      (∀ d e, r.lookup d = .error e ↔
        r.carried d = [] ∧ e = .noMatch d r.telltales ∨
          2 ≤ (r.carried d).length ∧ e = .ambiguous d (r.carried d)) ∧
      ∀ others, (∀ resolver, resolver ∈ r.resolvers ↔ resolver ∈ (ofOffers others).resolvers) →
        ∀ d, Agrees d (r.lookup d) ((ofOffers others).lookup d) := by
  intro r
  refine ⟨nodup_ofOffers offers, resolvers_ofOffers offers, find?_ofOffers offers, ?_,
    fun d resolver => lookup_eq_ok_iff, fun d e => lookup_eq_error_iff, ?_⟩
  · intro resolver
    rw [← mem_telltales_ofOffers, ofOffers_concat]
    constructor
    · intro htaken
      exact ⟨register_of_mem htaken, offered_of_mem htaken⟩
    · intro hfree
      rw [offered_of_not_mem hfree]
      exact register_of_not_mem hfree
  · intro others hsame d
    apply agrees_lookup
    rw [List.perm_ext_iff_of_nodup (nodup_ofOffers offers).of_map (nodup_ofOffers others).of_map]
    exact hsame

/-- A second resolver of directories. -/
def shadow : Resolver := .forward "shadow" "directory" "path"

/-- A definition with the telltales of two resolvers. -/
def torn : Definition :=
  ⟨⟨"/d"⟩, [("directory", .string "www"), ("inline", .string "text")]⟩

theorem unambiguous_torn :
    (∀ resolver, resolver ∈ (ofOffers (builtin ⟨.production, none⟩ ++ [shadow])).resolvers ↔
        resolver ∈ (ofOffers (builtin ⟨.production, none⟩).reverse).resolvers) ∧
      Agrees torn (.error (.ambiguous torn ["directory", "inline"]))
        (.error (.ambiguous torn ["inline", "directory"])) := by
  have hfirst : ofOffers (builtin ⟨.production, none⟩ ++ [shadow]) =
      standard ⟨.production, none⟩ := rfl
  have hsecond : ofOffers (builtin ⟨.production, none⟩).reverse =
      ⟨(builtin ⟨.production, none⟩).reverse⟩ := rfl
  have hsame : ∀ resolver, resolver ∈ (ofOffers (builtin ⟨.production, none⟩ ++ [shadow])).resolvers ↔
      resolver ∈ (ofOffers (builtin ⟨.production, none⟩).reverse).resolvers := by
    intro resolver
    rw [hfirst, hsecond]
    exact List.mem_reverse.symm
  obtain ⟨-, -, -, -, -, -, hagrees⟩ := unambiguous (builtin ⟨.production, none⟩ ++ [shadow])
  exact ⟨hsame, hagrees _ hsame torn⟩

end Registry

end Signpost
