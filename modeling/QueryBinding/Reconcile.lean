import QueryBinding.Expr

/-!
# Reconciling the mappings of two operands

When exactly one operand of a binary node is a scalar with a mapping, the other
one takes that mapping if it can: a scalar that has none and is no condition is
sent with it, and a bare constant or parameter becomes a scalar with it, whatever
its host type.  Two mapped operands are left alone, and so is everything inside
the operands.
-/

namespace QueryBinding.Expr

def mapping? : Expr → Option TypeMapping
  | .scalar _ mapping _ => mapping
  | _ => none

/-- Give an operand the mapping of the other one, if it can take it. -/
def adopt (mapping : TypeMapping) : Expr → Expr
  | .scalar inner none false => .scalar inner (some mapping) false
  | .constant value type => .scalar (.constant value type) (some mapping) false
  | .parameter name type => .scalar (.parameter name type) (some mapping) false
  | e => e

def reconcileOperands (left right : Expr) : Expr × Expr :=
  match left.mapping?, right.mapping? with
  | some mapping, none => (left, right.adopt mapping)
  | none, some mapping => (left.adopt mapping, right)
  | _, _ => (left, right)

def reconcile : Expr → Expr
  | .binary op left right type =>
      let (left, right) := reconcileOperands left right
      .binary op left right type
  | e => e

end QueryBinding.Expr
