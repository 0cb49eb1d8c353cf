import QueryBinding.Expr.Pending
import QueryBinding.Reconcile
import QueryBinding.Rewrite.Rule
import QueryBinding.Select

/-!
# Translation

A translator binds host expressions to the columns of a select.  `visit` works
bottom-up: an access to a property of a row becomes the column behind it, other
calls and members go through the rewrite rules, the operands of a binary node are
reconciled, and the conversion of a scalar becomes a cast.  `translate` makes a
scalar of what `visit` leaves.
-/

namespace QueryBinding

structure Translator where
  source : MappingSource
  rules : RuleSet
  /-- The mapping by which conditions are recognised. -/
  boolMapping : TypeMapping

namespace Translator

def create (source : MappingSource) (rules : RuleSet) : Except Fault Translator := do
  return ⟨source, rules, ← source.boolMapping⟩

/-! ## Properties -/

def bindName (select : Select) (entity : EntityType) (buffer : Expr) (name : String) :
    Except Fault Expr :=
  match entity.findProperty? name with
  | some property => (select.bindProperty buffer property).map Scalar.toExpr
  | none => .error (.undefinedProperty entity.name name)

def stripObjectConversion : Expr → Expr
  | .unary .convert operand .object => operand
  | e => e

def accessedRow? (call : MethodCall) : Option (EntityType × Expr) :=
  if call.method.isPropertyAccessor then
    call.args.head?.bind fun arg => (stripObjectConversion arg).asRow?
  else
    none

def accessedName : Option Expr → Except Fault String
  | none => .error (.unsupported .missingPropertyName)
  | some (.constant (.string name) _) => .ok name
  | some other => .error (.unsupported (.dynamicPropertyName other.render))

/-! ## Single nodes -/

def resolveMember (t : Translator) (select : Select) (access : MemberAccess) :
    Except Fault Expr :=
  match access.receiver.bind Expr.asRow? with
  | some (entity, buffer) => bindName select entity buffer access.name
  | none => .ok ((t.rules.rewriteMember? access).getD access.toExpr)

/-- Bind or rewrite a method call whose receiver and arguments are bound. -/
def resolveCall (t : Translator) (select : Select) (call : MethodCall) : Except Fault Expr :=
  match accessedRow? call with
  | some (entity, buffer) => do
      let name ← accessedName call.args[1]?
      bindName select entity buffer name
  | none => .ok ((t.rules.rewriteCall? call).getD call.toExpr)

def resolveUnary (t : Translator) (op : UnaryOp) (operand : Expr) (type : HostType) :
    Except Fault Expr :=
  if op = .convert ∧ operand.isScalar ∧ type ≠ .object then do
    let mapping ← t.source.mapping type
    return (Scalar.value (.cast operand type mapping.storeType) mapping).toExpr
  else
    .ok (.unary op operand type)

/-! ## Whole expressions -/

mutual

/-- Bind an expression, its parts first.  Rows, positions and SQL nodes stay as they are. -/
def visit (t : Translator) (select : Select) : Expr → Except Fault Expr
  | .member receiver name type => do
      let receiver ← visitOption t select receiver
      t.resolveMember select ⟨receiver, name, type⟩
  | .call receiver method args type => do
      let receiver ← visitOption t select receiver
      let args ← visitAll t select args
      t.resolveCall select ⟨receiver, method, args, type⟩
  | .binary op left right type => do
      let left ← visit t select left
      let right ← visit t select right
      return (Expr.binary op left right type).reconcile
  | .unary op operand type => do
      let operand ← visit t select operand
      t.resolveUnary op operand type
  | e => .ok e

def visitOption (t : Translator) (select : Select) : Option Expr → Except Fault (Option Expr)
  | some e => do return some (← visit t select e)
  | none => .ok none

def visitAll (t : Translator) (select : Select) : List Expr → Except Fault (List Expr)
  | [] => .ok []
  | e :: rest => do
      let e ← visit t select e
      let rest ← visitAll t select rest
      return e :: rest

end

@[simp] theorem visitOption_eq_mapM (t : Translator) (select : Select) (e : Option Expr) :
    t.visitOption select e = e.mapM (t.visit select) := by
  cases e <;> rfl

@[simp] theorem visitAll_eq_mapM (t : Translator) (select : Select) (es : List Expr) :
    t.visitAll select es = es.mapM (t.visit select) := by
  induction es with
  | nil => rfl
  | cons e rest ih => simp [visitAll, ih]

def toScalar (t : Translator) : Expr → Except Fault Scalar
  | .scalar inner mapping isCondition => .ok ⟨inner, mapping, isCondition⟩
  | .row entity _ => .error (.unsupported (.entityAsScalar entity.name))
  | .projected path _ => .error (.unsupported (.projectionAsScalar path))
  | e => do return .value e (some (← t.source.mapping e.type))

def flag (t : Translator) (wanted : Bool) (s : Scalar) : Scalar :=
  if wanted && !s.isCondition && s.mapping == some t.boolMapping then s.asCondition else s

/-- The scalar that a host expression is bound to; calls that no rule accepts are kept. -/
def translate (t : Translator) (select : Select) (e : Expr) (condition : Bool) :
    Except Fault Scalar := do
  let bound ← t.visit select e
  return t.flag condition (← t.toScalar bound)

/-- Like `translate`, but a call that no rule accepts is a fault. -/
def translateChecked (t : Translator) (select : Select) (e : Expr) (condition : Bool) :
    Except Fault Scalar := do
  let scalar ← t.translate select e condition
  match scalar.inner.pendingCall? with
  | some call => .error (.unsupported (.pendingCall call.toExpr.render))
  | none => .ok scalar

end Translator

end QueryBinding
