import QueryBinding.Rewrite.Rule

/-!
# Equality calls

Calls of `Equals`, on a receiver or static with two arguments, become conditions
when both operands have the same host type.  If only one operand is a scalar, the
other one is sent with its mapping.
-/

namespace QueryBinding

namespace Equality

def operands? (call : MethodCall) : Option (Expr × Expr) :=
  if call.method.name = "Equals" then
    match call.receiver, call.args with
    | some receiver, [other] => some (receiver, other)
    | none, [left, right] => if left.type = right.type then some (left, right) else none
    | _, _ => none
  else
    none

/-- Make a scalar of the one operand that is none, with the mapping of the other. -/
def alignOperands (left right : Expr) : Expr × Expr :=
  match left.asScalar?, right.asScalar? with
  | some scalar, none => (left, (Scalar.value right scalar.mapping).toExpr)
  | none, some scalar => ((Scalar.value left scalar.mapping).toExpr, right)
  | _, _ => (left, right)

def condition (left right : Expr) : Scalar :=
  let (left, right) := alignOperands left right
  .condition (.binary .equal left right .bool)

def rewrite? (call : MethodCall) : Option Expr :=
  match operands? call with
  | some (left, right) =>
      if left.type = right.type then some (condition left right).toExpr else none
  | none => none

end Equality

def CallRule.equality : CallRule :=
  ⟨"equals", Equality.rewrite?⟩

def RuleSet.relational : RuleSet :=
  RuleSet.empty.addCalls [.equality]

end QueryBinding
