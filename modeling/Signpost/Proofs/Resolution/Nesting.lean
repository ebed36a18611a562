import Mathlib.Data.Finset.Card
import Signpost.Proofs.Resolution.Termination

/-!
How references are nested.  The chain of a visitor never has a name twice and has names of
the root only, so it is at most as long as the root has properties.  That it is so at every
moment is seen by a watch that is kept on resolution: an alarm, whatever it would do, is
never heard.
-/

namespace Signpost

namespace Visitor

/-- What a visitor answers if it resolves values by `ask`, told how many levels it has. -/
def inquireBy (ask : Nat → Ask) (v : Visitor) : Inquiry → Resolving (Option Artifact)
  | .root name => some <$> followRoot (ask (v.enough 0)) v name
  | .required d property =>
      some <$> (v.scope (ask (v.enough (Value.definition d).depth))).upward d property
  | .optional d property =>
      (v.scope (ask (v.enough (Value.definition d).depth))).upward? d property
  | .definition d => some <$> route (ask (v.enough (Value.definition d).depth)) v d
  | .chosen telltale d =>
      match v.registry.find? telltale with
      | some resolver =>
          some <$> resolver.resolve (v.scope (ask (v.enough (Value.definition d).depth))) d
      | none => return none

theorem inquireBy_valueWithin (v : Visitor) (inquiry : Inquiry) :
    v.inquireBy valueWithin inquiry = v.inquire inquiry := by
  cases inquiry <;> rfl

/-! ### The chain -/

/-- The names in the chain are different properties of the root, and so no more than it has. -/
structure InOrder (v : Visitor) : Prop where
  unique : v.chain.Nodup
  known : ∀ name ∈ v.chain, v.document.root.has name = true
  bounded : v.chain.length ≤ v.document.root.size

instance (v : Visitor) : Decidable v.InOrder :=
  decidable_of_iff (v.chain.Nodup ∧ (∀ name ∈ v.chain, v.document.root.has name = true) ∧
      v.chain.length ≤ v.document.root.size)
    ⟨fun ⟨hunique, hknown, hbounded⟩ => ⟨hunique, hknown, hbounded⟩,
      fun h => ⟨h.unique, h.known, h.bounded⟩⟩

theorem InOrder.of_nodup {v : Visitor} (hunique : v.chain.Nodup)
    (hknown : ∀ name ∈ v.chain, v.document.root.has name = true) : v.InOrder := by
  refine ⟨hunique, hknown, ?_⟩
  have hsubset : v.chain ⊆ v.document.root.names := by
    intro name hname
    obtain ⟨y, hget⟩ := Option.isSome_iff_exists.mp (hknown name hname)
    exact Definition.mem_names_of_get? hget
  have hlength := (hunique.subperm hsubset).length_le
  rw [Definition.names, List.length_map] at hlength
  exact hlength

theorem inOrder_start (registry : Registry) (document : Document) (environment : Environment) :
    (start registry document environment).InOrder :=
  .of_nodup List.nodup_nil fun _ hname => absurd hname List.not_mem_nil

variable {v : Visitor}

/-- Following a name that is not refused keeps the order. -/
theorem InOrder.extend (h : v.InOrder) {name : String} (hnew : v.chain.contains name = false)
    (hhas : v.document.root.has name = true) :
    ({ v with chain := v.chain ++ [name] } : Visitor).InOrder := by
  have hnotin : name ∉ v.chain := by simpa using hnew
  have hunique : (v.chain ++ [name]).Nodup := by
    rw [← List.concat_eq_append]
    exact h.unique.concat hnotin
  refine .of_nodup hunique fun other hother => ?_
  rcases List.mem_append.mp hother with hother | hother
  · exact h.known other hother
  · rw [List.mem_singleton.mp hother]
    exact hhas

/-! ### The watch -/

/-- Resolution by `ask`, with an alarm where the chain is out of order. -/
def checked (alarm ask : Ask) : Ask := fun v x =>
  if v.InOrder then ask v x else alarm v x

/-- Resolution that goes at most so many levels deep, the chain checked at each of them. -/
def watched (alarm : Ask) : Nat → Ask
  | 0 => checked alarm fun _ _ => Resolving.exhausted
  | levels + 1 => checked alarm (level (watched alarm levels))

section Congruence

variable {ask answer : Ask}

theorem follow_congr (hguarded : v.guarded = true) {name : String}
    (hnext : v.chain.contains name = false → v.document.root.has name = true → ∀ y,
      ask { v with chain := v.chain ++ [name] } y =
        answer { v with chain := v.chain ++ [name] } y) :
    follow ask v name = follow answer v name := by
  cases hseen : v.chain.contains name with
  | true =>
      have hrefused : (v.guarded && v.chain.contains name) = true := by rw [hguarded, hseen]; rfl
      rw [follow_of_contains hrefused, follow_of_contains hrefused]
  | false =>
      have hfree : (v.guarded && v.chain.contains name) = false := by rw [hseen, Bool.and_false]
      cases hget : v.document.root.get? name with
      | none => rw [follow_of_get?_eq_none hfree hget, follow_of_get?_eq_none hfree hget]
      | some y =>
          have hhas : v.document.root.has name = true := by
            rw [Definition.has, hget, Option.isSome_some]
          rw [follow_of_get? hfree hget, follow_of_get? hfree hget]
          exact hnext hseen hhas y

theorem scope_congr (hself : ask v = answer v)
    (hfollow : follow ask v = follow answer v) : v.scope ask = v.scope answer := by
  have hroot : followRoot ask v = followRoot answer v := by
    funext name
    rw [followRoot, followRoot, hfollow]
  rw [scope, scope, hself, hroot]

theorem level_congr (hself : ask v = answer v) (hfollow : follow ask v = follow answer v)
    (x : Value) : level ask v x = level answer v x := by
  cases x with
  | literal data => rfl
  | nested source properties =>
      simp only [level, route]
      rw [scope_congr hself hfollow]
  | reference target =>
      cases target with
      | property name =>
          simp only [level]
          rw [hfollow]
      | env name => rfl

end Congruence

/-- Nobody hears the alarm: by induction on the levels, since a name is followed only where
that keeps the order. -/
theorem watched_eq (alarm : Ask) (hguarded : v.guarded = true) (horder : v.InOrder)
    (levels : Nat) : watched alarm levels v = valueWithin levels v := by
  induction levels generalizing v with
  | zero =>
      funext x
      exact if_pos horder
  | succ levels ih =>
      funext x
      rw [watched, checked, if_pos horder]
      refine level_congr (ih hguarded horder) ?_ x
      funext name
      refine follow_congr hguarded fun hnew hhas y => ?_
      exact congrFun (ih (v := { v with chain := v.chain ++ [name] }) hguarded
        (horder.extend hnew hhas)) y

theorem inquireBy_watched (alarm : Ask) (hguarded : v.guarded = true) (horder : v.InOrder)
    (inquiry : Inquiry) : v.inquireBy (watched alarm) inquiry = v.inquire inquiry := by
  have hfollow (levels : Nat) : follow (watched alarm levels) v = follow (valueWithin levels) v := by
    funext name
    refine follow_congr hguarded fun hnew hhas y => ?_
    exact congrFun (watched_eq alarm (v := { v with chain := v.chain ++ [name] }) hguarded
      (horder.extend hnew hhas) levels) y
  have hscope (levels : Nat) : v.scope (watched alarm levels) = v.scope (valueWithin levels) :=
    scope_congr (watched_eq alarm hguarded horder levels) (hfollow levels)
  rw [← inquireBy_valueWithin]
  cases inquiry with
  | root name => simp only [inquireBy, followRoot, hfollow]
  | required d property => simp only [inquireBy, hscope]
  | optional d property => simp only [inquireBy, hscope]
  | definition d => simp only [inquireBy, route, hscope]
  | chosen telltale d => simp only [inquireBy, hscope]

/-- Whatever a visitor is asked for by the built-in resolvers, it comes to a result, and on the
way its chain is in order at every moment: no alarm about it changes anything. -/
theorem inquire_terminates (options : ResolverOptions) (document : Document)
    (environment : Environment) (inquiry : Inquiry) :
    let v := start (.standard options) document environment
    (∀ disk s, ∃ result, ((v.inquire inquiry).run disk s).1 = some result) ∧
      ∀ alarm, v.inquireBy (watched alarm) inquiry = v.inquire inquiry := by
  intro v
  refine ⟨fun disk s => (ends_inquire rfl rfl inquiry).run disk s, fun alarm => ?_⟩
  exact inquireBy_watched alarm rfl (inOrder_start _ document environment) inquiry

end Visitor

end Signpost
