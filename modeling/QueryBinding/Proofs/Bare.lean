import QueryBinding.Expr.Induction
import QueryBinding.Expr.Render
import QueryBinding.Proofs.Operands

/-!
# Bare expressions

A scalar says with which mapping a value is sent and whether it is a condition.  What is
computed, and the text of it, is left when the scalars are taken off at every depth.
Neither the reconciliation of operands nor the alignment of compared ones changes that.
-/

namespace QueryBinding.Expr

mutual

/-- What is left of an expression without its scalars.  The buffer of a row stays as it is. -/
def bare : Expr → Expr
  | .member receiver name type => .member (bareOption receiver) name type
  | .call receiver method args type => .call (bareOption receiver) method (bareAll args) type
  | .binary op left right type => .binary op left.bare right.bare type
  | .unary op operand type => .unary op operand.bare type
  | .scalar inner _ _ => inner.bare
  | .cast operand type storeType => .cast operand.bare type storeType
  | .function inst name schema args type =>
      .function (bareOption inst) name schema (bareAll args) type
  | e => e

def bareOption : Option Expr → Option Expr
  | some e => some e.bare
  | none => none

def bareAll : List Expr → List Expr
  | [] => []
  | e :: rest => e.bare :: bareAll rest

end

@[simp] theorem bareOption_eq_map (e : Option Expr) : bareOption e = e.map bare := by
  cases e <;> rfl

@[simp] theorem bareAll_eq_map (es : List Expr) : bareAll es = es.map bare := by
  induction es with
  | nil => rfl
  | cons e rest ih => simp [bareAll, ih]

/-! ## Texts -/

theorem renderOwner_map_bare {receiver : Option Expr}
    (h : ∀ r ∈ receiver, r.bare.render = r.render) (static : String) :
    renderOwner (receiver.map bare) static = renderOwner receiver static := by
  cases receiver with
  | none => rfl
  | some r => simp [renderOwner, h r rfl]

theorem render_bare (e : Expr) : e.bare.render = e.render := by
  induction e with
  | member receiver name type ih => simp [bare, render, renderOwner_map_bare ih]
  | call receiver method args type ihReceiver ihArgs =>
      have hargs : (args.map bare).map render = args.map render := by simpa using ihArgs
      simp only [bare, bareOption_eq_map, bareAll_eq_map, render, renderAll_eq_map, hargs,
        renderOwner_map_bare ihReceiver]
  | function inst name schema args type ihInst ihArgs =>
      have hargs : (args.map bare).map render = args.map render := by simpa using ihArgs
      simp only [bare, bareOption_eq_map, bareAll_eq_map, render, renderAll_eq_map, hargs,
        renderOwner_map_bare ihInst]
  | binary op left right type ihLeft ihRight => simp [bare, render, ihLeft, ihRight]
  | unary op operand type ih => cases op <;> simp [bare, render, ih]
  | cast operand type storeType ih => simp [bare, render, ih]
  | scalar inner mapping isCondition ih => simp [bare, render, ih]
  | _ => rfl

/-! ## Operands beside each other -/

variable {left right : Expr}

theorem bare_adopt (mapping : TypeMapping) (e : Expr) : (e.adopt mapping).bare = e.bare := by
  unfold adopt
  split <;> simp [bare]

theorem bare_reconcileOperands (left right : Expr) :
    (reconcileOperands left right).1.bare = left.bare ∧
      (reconcileOperands left right).2.bare = right.bare := by
  unfold reconcileOperands
  split <;> simp [bare_adopt]

theorem bare_reconcile (e : Expr) : e.reconcile.bare = e.bare := by
  cases e with
  | binary op left right type =>
      obtain ⟨hleft, hright⟩ := bare_reconcileOperands left right
      simp only [reconcile, bare, hleft, hright]
  | _ => rfl

theorem render_reconcile (e : Expr) : e.reconcile.render = e.render := by
  rw [← render_bare, bare_reconcile, render_bare]

theorem bare_alignOperands (left right : Expr) :
    (Equality.alignOperands left right).1.bare = left.bare ∧
      (Equality.alignOperands left right).2.bare = right.bare := by
  unfold Equality.alignOperands
  split <;> simp [bare, Scalar.toExpr, Scalar.value]

theorem alignOperands_eq_reconcileOperands (hleft : left.isInput ∨ left.mapping?.isSome)
    (hright : right.isInput ∨ right.mapping?.isSome) :
    Equality.alignOperands left right = reconcileOperands left right := by
  have hinput : ∀ {e : Expr}, e.isInput → e.asScalar? = none := by
    intro e he
    cases e with
    | scalar => cases he
    | _ => rfl
  have hmapped : ∀ {e : Expr}, e.mapping?.isSome → ∃ s mapping,
      e.asScalar? = some s ∧ s.mapping = some mapping := by
    intro e he
    obtain ⟨mapping, hmapping⟩ := Option.isSome_iff_exists.mp he
    obtain ⟨content, flag, rfl⟩ := mapping?_eq_some_iff.mp hmapping
    exact ⟨_, mapping, rfl, rfl⟩
  unfold Equality.alignOperands reconcileOperands
  rcases hleft with hl | hl <;> rcases hright with hr | hr
  · simp [mapping?_eq_bind, hinput hl, hinput hr]
  · obtain ⟨s, mapping, hs, hmapping⟩ := hmapped hr
    simp [mapping?_eq_bind, hinput hl, hs, hmapping, adopt_of_isInput hl, Scalar.toExpr,
      Scalar.value]
  · obtain ⟨s, mapping, hs, hmapping⟩ := hmapped hl
    simp [mapping?_eq_bind, hinput hr, hs, hmapping, adopt_of_isInput hr, Scalar.toExpr,
      Scalar.value]
  · obtain ⟨s, mapping, hs, hmapping⟩ := hmapped hl
    obtain ⟨s', mapping', hs', hmapping'⟩ := hmapped hr
    simp [mapping?_eq_bind, hs, hmapping, hs', hmapping']

end QueryBinding.Expr
