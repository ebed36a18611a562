import Signpost.Proofs.Resolution.Inquiry
import Signpost.Proofs.Resolution.Outcome

/-!
Resolution ends.  A visitor that looks at its chain follows every name of the root at most
once on the way to a value, and between two names the way is no longer than definitions are
nested; so many levels are enough, whatever files there are and whichever handlers are shared.
-/

namespace Signpost

/-! ### Plans that end -/

namespace Plan

variable {α β : Type} {Q : α → Prop} {p : Plan α}

/-- Whatever its questions are answered, a plan comes to a result in `Q`. -/
inductive Ends (Q : α → Prop) : Plan α → Prop where
  | done {a : α} (h : Q a) : Ends Q (.done a)
  | confine {root : Option Path} {path : Path} {next : Except Escape Path → Plan α}
      (h : ∀ answer, Ends Q (next answer)) : Ends Q (.confine root path next)
  | read {path : Path} {next : Except IoError ByteArray → Plan α}
      (h : ∀ answer, Ends Q (next answer)) : Ends Q (.read path next)
  | serve {base : Path} {maxAge : Nat} {next : Handler → Plan α}
      (h : ∀ handler, Ends Q (next handler)) : Ends Q (.serve base maxAge next)
  | make {conduct : Conduct} {next : Handler → Plan α}
      (h : ∀ handler, Ends Q (next handler)) : Ends Q (.make conduct next)

theorem Ends.bind {S : β → Prop} {f : α → Plan β} (h : p.Ends Q)
    (hf : ∀ a, Q a → (f a).Ends S) : (p.bind f).Ends S := by
  induction h with
  | done ha => exact hf _ ha
  | confine _ ih => exact .confine ih
  | read _ ih => exact .read ih
  | serve _ ih => exact .serve ih
  | make _ ih => exact .make ih

theorem Ends.run (h : p.Ends Q) (disk : Disk) (s : Shared) : ∃ a, (p.run disk s).1 = some a := by
  induction h generalizing s with
  | done => exact ⟨_, rfl⟩
  | confine _ ih => exact ih _ s
  | read _ ih => exact ih _ s
  | serve _ ih => exact ih _ _
  | make _ ih => exact ih _ _

theorem Ends.outcome (h : p.Ends Q) (disk : Disk) : ∃ a, p.outcome disk = some a := by
  induction h with
  | done => exact ⟨_, rfl⟩
  | confine _ ih => exact ih _
  | read _ ih => exact ih _
  | serve _ ih => exact ih _
  | make _ ih => exact ih _

end Plan

namespace Resolving

/-- A resolution that comes to an end, and if it does not fail to a result as `R` has them. -/
def Ends (α : Type) (R : α → α → Prop) (p _ : Resolving α) : Prop :=
  Plan.Ends (fun result => ∀ a, result = .ok a → ∃ b, R a b) (ExceptT.run p)

variable {α : Type} {R : α → α → Prop}

theorem Ends.failed (e : ResolveError) (other : Resolving α) : Ends α R (throw e) other :=
  .done fun _ hfound => by cases hfound

theorem respectful_ends (options : ResolverOptions) :
    Respectful options (fun _ => True) Eq Ends where
  pure {α R a b} hab := by
    refine .done fun found hfound => ⟨b, ?_⟩
    cases hfound
    exact hab
  throw _ := Ends.failed _ _
  bind hp hf := by
    refine Plan.Ends.bind hp ?_
    intro result hresult
    cases result with
    | ok a =>
        obtain ⟨b, hab⟩ := hresult a rfl
        exact hf a b hab
    | error e => exact Ends.failed e (throw e)
  confine path := by
    refine .confine fun answer => ?_
    cases answer with
    | ok p => exact .done fun found _ => ⟨found, rfl, trivial⟩
    | error e => exact Ends.failed (.escape e) (throw (.escape e))
  read {path} _ := by
    refine .read fun answer => ?_
    cases answer with
    | ok content => exact .done fun found _ => ⟨found, rfl⟩
    | error e => exact Ends.failed (.io e) (throw (.io e))
  serve _ := .serve fun handler => .done fun found _ => ⟨found, rfl⟩

end Resolving

/-! ### Levels -/

namespace Value

theorem depth_le_depthOfAll {properties : List (String × Value)} {name : String} {y : Value}
    (h : properties.lookup name = some y) : y.depth ≤ depthOfAll properties := by
  induction properties with
  | nil => simp at h
  | cons property rest ih =>
      obtain ⟨key, value⟩ := property
      rw [List.lookup_cons] at h
      rw [depthOfAll]
      split at h
      · obtain rfl : value = y := Option.some.inj h
        exact Nat.le_max_left _ _
      · exact Nat.le_trans (ih h) (Nat.le_max_right _ _)

theorem depth_pos (x : Value) : 0 < x.depth := by
  cases x <;> simp [depth]

end Value

theorem Definition.mem_names_of_get? {d : Definition} {name : String} {y : Value}
    (h : d.get? name = some y) : name ∈ d.names := by
  rw [← has_iff_mem_names, has, h]
  rfl

namespace Visitor

variable {options : ResolverOptions} {v : Visitor}

/-- The names of the root that have not been followed yet. -/
def unfollowed (v : Visitor) : List String :=
  v.document.root.names.filter fun name => !v.chain.contains name

theorem unfollowed_extend_lt {name : String} {y : Value}
    (hget : v.document.root.get? name = some y) (hnew : v.chain.contains name = false) :
    ({ v with chain := v.chain ++ [name] } : Visitor).unfollowed.length < v.unfollowed.length := by
  have hfewer : ({ v with chain := v.chain ++ [name] } : Visitor).unfollowed =
      v.unfollowed.filter fun other => other != name := by
    simp only [unfollowed, List.filter_filter]
    apply List.filter_congr
    intro other _
    by_cases hother : other = name <;> simp [hother]
  rw [hfewer, List.length_filter_lt_length_iff_exists]
  refine ⟨name, ?_, by simp⟩
  exact List.mem_filter.mpr ⟨Definition.mem_names_of_get? hget, by rw [hnew]; rfl⟩

/-- So many levels are enough to resolve a value: it may be nested, and so may be the value of
each name that has not been followed yet. -/
def room (v : Visitor) (x : Value) : Nat :=
  x.depth + v.unfollowed.length * (Value.depthOfAll v.document.root.properties + 1)

/-- A resolution of an artifact that comes to an end. -/
abbrev Ends (p : Resolving Artifact) : Prop :=
  Resolving.Ends Artifact (Artifact.Related Eq) p p

/-- There is less room to leave once a name has been followed. -/
theorem room_extend_le {name : String} {y : Value} (hget : v.document.root.get? name = some y)
    (hnew : v.chain.contains name = false) :
    ({ v with chain := v.chain ++ [name] } : Visitor).room y ≤
      v.unfollowed.length * (Value.depthOfAll v.document.root.properties + 1) := by
  have hfewer := unfollowed_extend_lt hget hnew
  have hdepth : y.depth ≤ Value.depthOfAll v.document.root.properties :=
    Value.depth_le_depthOfAll hget
  have hrest := Nat.mul_le_mul_right (Value.depthOfAll v.document.root.properties + 1)
    (Nat.succ_le_of_lt hfewer)
  rw [Nat.succ_mul] at hrest
  change y.depth + _ * (Value.depthOfAll v.document.root.properties + 1) ≤ _
  omega

/-- There is less room in what a definition is made of. -/
theorem room_lt_nested {source : Path} {properties : List (String × Value)} {property : String}
    {y : Value} (hget : properties.lookup property = some y) :
    v.room y < v.room (.nested source properties) := by
  have hdepth := Value.depth_le_depthOfAll hget
  unfold room
  rw [Value.depth]
  omega

theorem room_reference (v : Visitor) (target : Reference) :
    v.room (.reference target) =
      1 + v.unfollowed.length * (Value.depthOfAll v.document.root.properties + 1) := by
  rw [room, Value.depth]

theorem ends_follow_of (hv : v.registry = .standard options) (hguarded : v.guarded = true)
    {levels : Nat} {name : String}
    (hroom : v.unfollowed.length * (Value.depthOfAll v.document.root.properties + 1) ≤ levels)
    (hask : ∀ y, ({ v with chain := v.chain ++ [name] } : Visitor).room y ≤ levels →
      Ends (valueWithin levels { v with chain := v.chain ++ [name] } y)) :
    Ends (follow (valueWithin levels) v name) := by
  cases hseen : v.guarded && v.chain.contains name with
  | true =>
      rw [follow_of_contains hseen]
      exact .failed _ _
  | false =>
      have hnew : v.chain.contains name = false := by simpa [hguarded] using hseen
      exact (Resolving.respectful_ends options).discreet.follow (.refl hv) hseen hseen fun y hget =>
        hask y (Nat.le_trans (room_extend_le hget hnew) hroom)

theorem ends_valueWithin (hv : v.registry = .standard options) (hguarded : v.guarded = true)
    {levels : Nat} {x : Value} (hroom : v.room x ≤ levels) :
    Ends (valueWithin levels v x) := by
  induction levels generalizing v x with
  | zero =>
      have hpos := x.depth_pos
      unfold room at hroom
      omega
  | succ levels ih =>
      refine (Resolving.respectful_ends options).level (.refl hv) ?_ ?_
      · rintro source properties rfl property y hget
        exact ih hv hguarded (Nat.le_of_lt_succ (Nat.lt_of_lt_of_le (room_lt_nested hget) hroom))
      · rintro name rfl
        have hfollowed : ({ v with chain := v.chain ++ [name] } : Visitor).registry =
            .standard options := hv
        refine ends_follow_of hv hguarded ?_ fun y hy => ih hfollowed hguarded hy
        rw [room_reference] at hroom
        omega

/-- As many levels as a visitor allows itself leave room for the names not followed yet. -/
theorem unfollowed_mul_le (v : Visitor) (depth : Nat) :
    depth + v.unfollowed.length * (Value.depthOfAll v.document.root.properties + 1) ≤
      v.enough depth := by
  have hsize : v.unfollowed.length ≤ v.document.root.size + 1 := by
    have hnames : v.document.root.names.length = v.document.root.size :=
      List.length_map Prod.fst
    have hfewer : v.unfollowed.length ≤ v.document.root.names.length := List.length_filter_le _ _
    omega
  have hmul : v.unfollowed.length * (Value.depthOfAll v.document.root.properties + 1) ≤
      (v.document.root.size + 1) * (Value.depthOfAll v.document.root.properties + 2) :=
    Nat.mul_le_mul hsize (Nat.le_succ _)
  unfold enough
  omega

/-- There is room for each property of a definition. -/
theorem room_le_enough (v : Visitor) {d : Definition} {property : String} {y : Value}
    (hget : d.get? property = some y) : v.room y ≤ v.enough (Value.definition d).depth := by
  have hdepth : y.depth ≤ Value.depthOfAll d.properties := Value.depth_le_depthOfAll hget
  refine Nat.le_trans ?_ (v.unfollowed_mul_le (Value.definition d).depth)
  unfold room
  rw [Value.definition, Value.depth]
  omega

/-- A root property is resolved within the levels that a visitor allows itself. -/
theorem ends_upwardRoot (hv : v.registry = .standard options) (hguarded : v.guarded = true)
    (name : String) : Ends (v.upwardRoot name) := by
  have hfollowed : ({ v with chain := v.chain ++ [name] } : Visitor).registry =
      .standard options := hv
  have hroom := v.unfollowed_mul_le 0
  rw [Nat.zero_add] at hroom
  exact (Resolving.respectful_ends options).discreet.followRoot (.refl hv) (ends_follow_of hv hguarded hroom
    fun y hy => ends_valueWithin hfollowed hguarded hy)

/-- So is everything that a visitor can be asked for. -/
theorem ends_inquire (hv : v.registry = .standard options) (hguarded : v.guarded = true)
    (inquiry : Inquiry) :
    Resolving.Ends (Option Artifact) (Option.Rel (Artifact.Related Eq)) (v.inquire inquiry)
      (v.inquire inquiry) := by
  exact (Resolving.respectful_ends options).inquire hv
    (fun name => ends_upwardRoot hv hguarded name)
    (fun _ _ _ hget => ends_valueWithin hv hguarded (v.room_le_enough hget)) inquiry

end Visitor

end Signpost
