import QueryBinding.Expr

/-!
# Induction on expressions

An expression holds optional expressions and lists of them, so the recursor of its
type speaks of these as well.  The principle below gives one hypothesis for every
receiver, instance and argument instead.
-/

namespace QueryBinding.Expr

@[elab_as_elim, induction_eliminator]
theorem inductionOn {motive : Expr → Prop}
    (constant : ∀ value type, motive (.constant value type))
    (parameter : ∀ name type, motive (.parameter name type))
    (member : ∀ receiver name type, (∀ r ∈ receiver, motive r) →
      motive (.member receiver name type))
    (call : ∀ receiver method args type, (∀ r ∈ receiver, motive r) →
      (∀ a ∈ args, motive a) → motive (.call receiver method args type))
    (binary : ∀ op left right type, motive left → motive right →
      motive (.binary op left right type))
    (unary : ∀ op operand type, motive operand → motive (.unary op operand type))
    (row : ∀ entity buffer, motive buffer → motive (.row entity buffer))
    (projected : ∀ path type, motive (.projected path type))
    (scalar : ∀ inner mapping isCondition, motive inner →
      motive (.scalar inner mapping isCondition))
    (column : ∀ c, motive (.column c))
    (cast : ∀ operand type storeType, motive operand → motive (.cast operand type storeType))
    (function : ∀ inst name schema args type, (∀ r ∈ inst, motive r) →
      (∀ a ∈ args, motive a) → motive (.function inst name schema args type))
    (fragment : ∀ sql type, motive (.fragment sql type)) (e : Expr) : motive e :=
  @Expr.rec motive (fun receiver => ∀ r ∈ receiver, motive r) (fun args => ∀ a ∈ args, motive a)
    constant parameter member call binary unary row projected scalar column cast function
    fragment
    (fun _ h => nomatch h)
    (fun r ih s h => by cases h; exact ih)
    (fun _ h => nomatch h)
    (fun a rest ih ihs b h => by
      cases h with
      | head => exact ih
      | tail _ h => exact ihs b h)
    e

end QueryBinding.Expr
