import QueryBinding.Entity
import QueryBinding.Operator
import QueryBinding.Value

/-!
# Expressions

Host expressions and the SQL nodes that they are bound to share one tree type.
The nodes up to `projected` belong to the host language; `scalar` and the nodes
after it come out of binding.

Receivers and instances are optional, arguments are lists, so functions on
expressions come in threes: one for an expression, one for an optional one and
one for a list.
-/

namespace QueryBinding

structure MethodRef where
  declaringType : String
  name : String
  deriving DecidableEq, Repr

/-- The method that reads a property by name: `Relational.Property(entity, "Name")`. -/
def MethodRef.propertyAccessor : MethodRef :=
  ⟨"Relational", "Property"⟩

def MethodRef.isPropertyAccessor (method : MethodRef) : Bool :=
  method = .propertyAccessor

structure Column where
  name : String
  tableAlias : String
  type : HostType
  nullable : Bool
  deriving DecidableEq, Repr

inductive Expr where
  | constant (value : Value) (type : HostType)
  | parameter (name : String) (type : HostType)
  | member (receiver : Option Expr) (name : String) (type : HostType)
  | call (receiver : Option Expr) (method : MethodRef) (args : List Expr) (type : HostType)
  | binary (op : BinaryOp) (left right : Expr) (type : HostType)
  | unary (op : UnaryOp) (operand : Expr) (type : HostType)
  /--
  The rows of an entity that are in scope.  The buffer tells the projection
  position that the rows are read from.
  -/
  | row (entity : EntityType) (buffer : Expr)
  | projected (path : ProjectionPath) (type : HostType)
  /-- A bound scalar with its mapping; a condition can stand where a predicate is needed. -/
  | scalar (inner : Expr) (mapping : Option TypeMapping) (isCondition : Bool)
  | column (column : Column)
  | cast (operand : Expr) (type : HostType) (storeType : String)
  | function (inst : Option Expr) (name : String) (schema : Option String)
      (args : List Expr) (type : HostType)
  /-- SQL text that has no node of its own. -/
  | fragment (sql : String) (type : HostType)
  deriving Repr, Inhabited

/-! ## Views -/

structure Scalar where
  inner : Expr
  mapping : Option TypeMapping
  isCondition : Bool
  deriving Repr, Inhabited

structure MethodCall where
  receiver : Option Expr
  method : MethodRef
  args : List Expr
  type : HostType
  deriving Repr

structure MemberAccess where
  receiver : Option Expr
  name : String
  type : HostType
  deriving Repr

namespace Scalar

def toExpr (s : Scalar) : Expr :=
  .scalar s.inner s.mapping s.isCondition

def value (inner : Expr) (mapping : Option TypeMapping) : Scalar :=
  ⟨inner, mapping, false⟩

def condition (inner : Expr) : Scalar :=
  ⟨inner, none, true⟩

def asCondition (s : Scalar) : Scalar :=
  { s with isCondition := true }

def withMapping (s : Scalar) (mapping : TypeMapping) : Scalar :=
  { s with mapping := some mapping }

end Scalar

def MethodCall.toExpr (c : MethodCall) : Expr :=
  .call c.receiver c.method c.args c.type

def MemberAccess.toExpr (m : MemberAccess) : Expr :=
  .member m.receiver m.name m.type

namespace Expr

def type : Expr → HostType
  | .constant _ type | .parameter _ type | .member _ _ type | .call _ _ _ type
  | .binary _ _ _ type | .unary _ _ type | .projected _ type | .cast _ type _
  | .function _ _ _ _ type | .fragment _ type => type
  | .row entity _ => entity.hostType
  | .scalar inner _ _ => inner.type
  | .column c => c.type

def asScalar? : Expr → Option Scalar
  | .scalar inner mapping isCondition => some ⟨inner, mapping, isCondition⟩
  | _ => none

def isScalar (e : Expr) : Bool :=
  e.asScalar?.isSome

def asRow? : Expr → Option (EntityType × Expr)
  | .row entity buffer => some (entity, buffer)
  | _ => none

end Expr

def Scalar.type (s : Scalar) : HostType :=
  s.inner.type

end QueryBinding
