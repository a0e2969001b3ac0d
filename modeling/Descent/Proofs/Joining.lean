import Descent.Proofs.Consumption

/-!
# Joining many values

Values are joined two at a time.  A `Bracketing` says which two are joined when: it is a tree with
the values at its leaves.  `Value.join` opens both its operands and drops the units in them, so what
comes out of a join is opened again by the join around it.  That does no harm, for the items of a
joined value are the solid items of its leaves from the left to the right, however they are bracketed
(`Bracketing.solidItems_joined`).  Only the outermost level is ever opened: a unit inside an item
stays, and so do all tokens.
-/

namespace Descent.Value

variable {M : Type}

/-! ## Items without units -/

theorem ne_unit_of_mem_solidItems {v w : Value M} (h : w ∈ v.solidItems) : w ≠ unit := by
  intro hw
  obtain ⟨-, hsolid⟩ := List.mem_filter.mp h
  simp [hw, isUnit] at hsolid

theorem eq_sequence_join_of_empty {v e : Value M} (h : e.solidItems = []) :
    v.join e = sequence v.solidItems ∧ e.join v = sequence v.solidItems := by
  constructor
  · rw [join_eq, h, List.append_nil]
  · rw [join_eq, h, List.nil_append]

/-! ## Bracketings -/

/-- A way to join values, two at a time. -/
inductive Bracketing (M : Type) where
  /-- A value by itself. -/
  | value (v : Value M)
  /-- Both sides are joined. -/
  | join (left right : Bracketing M)

namespace Bracketing

/-- The values that are joined, from the left to the right. -/
def values : Bracketing M → List (Value M)
  | value v => [v]
  | join l r => l.values ++ r.values

/-- What the values are joined to. -/
def joined : Bracketing M → Value M
  | value v => v
  | join l r => l.joined.join r.joined

theorem solidItems_joined : ∀ k : Bracketing M,
    k.joined.solidItems = k.values.flatMap solidItems
  | value v => by simp [joined, values]
  | join l r => by
      rw [joined, solidItems_join, solidItems_joined l, solidItems_joined r, values,
        List.flatMap_append]

theorem tokens_joined : ∀ k : Bracketing M, k.joined.tokens = k.values.flatMap tokens
  | value v => by simp [joined, values]
  | join l r => by
      rw [joined, tokens_join, tokens_joined l, tokens_joined r, values, List.flatMap_append]

/-- Two values or more are joined to the sequence of their solid items. -/
theorem joined_eq {k : Bracketing M} (h : 2 ≤ k.values.length) :
    k.joined = sequence (k.values.flatMap solidItems) := by
  cases k with
  | value v => simp [values] at h
  | join l r =>
      rw [joined, join_eq, solidItems_joined, solidItems_joined, values, List.flatMap_append]

/-- However two values or more are bracketed, they are joined to one and the same value, the sequence
of the items of all of them without units.  No unit is among its items, its tokens are those of the
values, and to join nothing or an empty sequence to it, on either side, does not change it. -/
theorem joined_regardless (vs : List (Value M)) (h : 2 ≤ vs.length) (k : Bracketing M)
    (hk : k.values = vs) :
    k.joined = sequence (vs.flatMap fun v => v.items.filter fun w => !w.isUnit) ∧
    (∀ w ∈ k.joined.items, w ≠ unit) ∧
    k.joined.tokens = vs.flatMap tokens ∧
    ∀ e, e = unit ∨ e = sequence [] → k.joined.join e = k.joined ∧ e.join k.joined = k.joined := by
  subst hk
  have hjoined := joined_eq h
  have hsolid : k.joined.solidItems = k.values.flatMap solidItems := solidItems_joined k
  refine ⟨hjoined, fun w hw => ?_, tokens_joined k, fun e he => ?_⟩
  · rw [hjoined, items_sequence, List.mem_flatMap] at hw
    obtain ⟨v, -, hw⟩ := hw
    exact ne_unit_of_mem_solidItems hw
  · have hempty : e.solidItems = [] := by
      cases he with
      | inl he => simp [he, solidItems]
      | inr he => simp [he, solidItems]
    obtain ⟨behind, before⟩ := eq_sequence_join_of_empty hempty (v := k.joined)
    rw [hsolid, ← hjoined] at behind before
    exact ⟨behind, before⟩

/-- A sequence with a unit in front and another one level down, then a unit, then the result of a
conversion: grouped to the left or to the right, the unit in front is gone and the other is there. -/
theorem joined_regardless_nested :
    let u : Value Nat := .sequence [.unit, .token ['a'], .sequence [.unit, .token ['b']]]
    let left : Bracketing Nat := .join (.join (.value u) (.value .unit)) (.value (.mapped 3))
    let right : Bracketing Nat := .join (.value u) (.join (.value .unit) (.value (.mapped 3)))
    left.joined = .sequence [.token ['a'], .sequence [.unit, .token ['b']], .mapped 3] ∧
      right.joined = left.joined ∧ left.joined.tokens = [['a'], ['b']] ∧
      left.joined.join (.sequence []) = left.joined := by
  intro u left right
  have two : 2 ≤ [u, .unit, .mapped 3].length := Nat.le_succ 2
  obtain ⟨hleft, -, htokens, hsame⟩ := joined_regardless [u, .unit, .mapped 3] two left rfl
  obtain ⟨hright, -⟩ := joined_regardless [u, .unit, .mapped 3] two right rfl
  exact ⟨hleft, hright.trans hleft.symm, htokens, (hsame (.sequence []) (Or.inr rfl)).1⟩

end Bracketing

end Descent.Value
