/-!
# Operators

The binary and unary operators of host expressions.
-/

namespace QueryBinding

inductive BinaryOp where
  | equal
  | notEqual
  | lessThan
  | lessThanOrEqual
  | greaterThan
  | greaterThanOrEqual
  | andAlso
  | orElse
  | add
  | subtract
  | multiply
  | divide
  | modulo
  deriving DecidableEq, Repr, Inhabited

namespace BinaryOp

def isComparison : BinaryOp → Bool
  | .equal | .notEqual | .lessThan | .lessThanOrEqual | .greaterThan | .greaterThanOrEqual => true
  | _ => false

def isLogical : BinaryOp → Bool
  | .andAlso | .orElse => true
  | _ => false

def yieldsBool (op : BinaryOp) : Bool :=
  op.isComparison || op.isLogical

def render : BinaryOp → String
  | .equal => "="
  | .notEqual => "<>"
  | .lessThan => "<"
  | .lessThanOrEqual => "<="
  | .greaterThan => ">"
  | .greaterThanOrEqual => ">="
  | .andAlso => "AND"
  | .orElse => "OR"
  | .add => "+"
  | .subtract => "-"
  | .multiply => "*"
  | .divide => "/"
  | .modulo => "%"

end BinaryOp

inductive UnaryOp where
  | convert
  | not
  | negate
  deriving DecidableEq, Repr, Inhabited

end QueryBinding
