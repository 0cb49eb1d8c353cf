import QueryBinding.Expr

/-!
# Building host expressions

Shorthands for the expressions of queries, with the types that follow from their
parts.
-/

namespace QueryBinding.Expr

def literal (value : Value) : Expr :=
  .constant value value.hostType

def get (receiver : Expr) (name : String) (type : HostType) : Expr :=
  .member (some receiver) name type

def property (entity : Expr) (name : String) (type : HostType) : Expr :=
  .call none .propertyAccessor [entity, literal (.string name)] type

/-- A binary expression: boolean where the operator says so, else of the left operand's type. -/
def operation (left : Expr) (op : BinaryOp) (right : Expr) : Expr :=
  .binary op left right (if op.yieldsBool then .bool else left.type)

def convert (operand : Expr) (type : HostType) : Expr :=
  .unary .convert operand type

def negation (operand : Expr) : Expr :=
  .unary .not operand .bool

def equalsCall (receiver other : Expr) : Expr :=
  .call (some receiver) ⟨receiver.type.name, "Equals"⟩ [other] .bool

def staticEqualsCall (left right : Expr) : Expr :=
  .call none ⟨"Object", "Equals"⟩ [left, right] .bool

end QueryBinding.Expr
