import QueryBinding.Expr.Build
import QueryBinding.Proofs.Binding

/-!
# Translation preserves meaning

An interpretation gives every kind of node a meaning from the meanings of its
parts.  Under the laws of `Interpretation.Lawful` the scalar that an expression is
translated to means what the expression means, in whatever interpretation.
-/

namespace QueryBinding

open QueryBinding.Expr

universe u

/-- A meaning for each kind of node, made from the meanings of its parts. -/
structure Interpretation (V : Type u) where
  constant : Value → HostType → V
  parameter : String → HostType → V
  member : Option V → String → HostType → V
  call : Option V → MethodRef → List V → HostType → V
  binary : BinaryOp → V → V → HostType → V
  unary : UnaryOp → V → HostType → V
  row : EntityType → V → V
  projected : ProjectionPath → HostType → V
  scalar : V → Option TypeMapping → Bool → V
  column : Column → V
  cast : V → HostType → String → V
  function : Option V → String → Option String → List V → HostType → V
  fragment : String → HostType → V

namespace Interpretation

variable {V : Type u} (I : Interpretation V)

mutual

def eval : Expr → V
  | .constant value type => I.constant value type
  | .parameter name type => I.parameter name type
  | .member receiver name type => I.member (evalOption receiver) name type
  | .call receiver method args type => I.call (evalOption receiver) method (evalAll args) type
  | .binary op left right type => I.binary op (eval left) (eval right) type
  | .unary op operand type => I.unary op (eval operand) type
  | .row entity buffer => I.row entity (eval buffer)
  | .projected path type => I.projected path type
  | .scalar inner mapping isCondition => I.scalar (eval inner) mapping isCondition
  | .column c => I.column c
  | .cast operand type storeType => I.cast (eval operand) type storeType
  | .function inst name schema args type =>
      I.function (evalOption inst) name schema (evalAll args) type
  | .fragment sql type => I.fragment sql type

def evalOption : Option Expr → Option V
  | some e => some (eval e)
  | none => none

def evalAll : List Expr → List V
  | [] => []
  | e :: rest => eval e :: evalAll rest

end

@[simp] theorem evalOption_eq_map (e : Option Expr) : I.evalOption e = e.map I.eval := by
  cases e <;> rfl

@[simp] theorem evalAll_eq_map (es : List Expr) : I.evalAll es = es.map I.eval := by
  induction es with
  | nil => rfl
  | cons e rest ih => rw [evalAll, ih, List.map_cons]

/-! ## The laws of SQL nodes, equality calls and property accesses -/

/--
The interpretations that agree with what SQL nodes stand for.  For the query over
`entity`, reading a property of its row means the column behind that property.
-/
structure Lawful (entity : EntityType) : Prop where
  scalar : ∀ inner mapping isCondition,
    I.eval (.scalar inner mapping isCondition) = I.eval inner
  cast : ∀ operand type storeType,
    I.eval (.cast operand type storeType) = I.eval (.unary .convert operand type)
  equalsCall : ∀ declaringType left right type,
    I.eval (.call (some left) ⟨declaringType, "Equals"⟩ [right] type) =
      I.eval (.binary .equal left right .bool)
  staticEqualsCall : ∀ declaringType left right type,
    I.eval (.call none ⟨declaringType, "Equals"⟩ [left, right] type) =
      I.eval (.binary .equal left right .bool)
  access : ∀ e name property, e.Accesses entity (.projected .root .object) name →
    entity.findProperty? name = some property →
      I.eval e = I.eval (.column (property.columnIn (Select.tableAlias entity.table)))

variable {I} {entity : EntityType}

theorem Lawful.eval_adopt (hlaws : I.Lawful entity) (mapping : TypeMapping) (e : Expr) :
    I.eval (e.adopt mapping) = I.eval e := by
  unfold adopt
  split
  · rw [hlaws.scalar, hlaws.scalar]
  · rw [hlaws.scalar]
  · rw [hlaws.scalar]
  · rfl

theorem Lawful.eval_reconcile (hlaws : I.Lawful entity) (op : BinaryOp) (left right : Expr)
    (type : HostType) :
    I.eval (Expr.binary op left right type).reconcile =
      I.eval (.binary op left right type) := by
  simp only [reconcile, reconcileOperands]
  split <;> simp only [eval, hlaws.eval_adopt]

theorem Lawful.eval_alignOperands (hlaws : I.Lawful entity) (left right : Expr) :
    I.eval (Equality.alignOperands left right).1 = I.eval left ∧
      I.eval (Equality.alignOperands left right).2 = I.eval right := by
  unfold Equality.alignOperands
  split
  · exact ⟨rfl, hlaws.scalar ..⟩
  · exact ⟨hlaws.scalar .., rfl⟩
  · exact ⟨rfl, rfl⟩

theorem Lawful.eval_condition (hlaws : I.Lawful entity) (left right : Expr) :
    I.eval (Equality.condition left right).toExpr =
      I.eval (.binary .equal left right .bool) := by
  obtain ⟨hleft, hright⟩ := hlaws.eval_alignOperands left right
  calc I.eval (Equality.condition left right).toExpr
      = I.eval (.binary .equal (Equality.alignOperands left right).1
          (Equality.alignOperands left right).2 .bool) := hlaws.scalar ..
    _ = I.eval (.binary .equal left right .bool) := by simp only [eval, hleft, hright]

/-! ## Binding -/

variable {t : Translator} {select : Select} {source : MappingSource} {query : EntityQuery}
  {e e' : Expr}

theorem Lawful.eval_of_resolves (hlaws : I.Lawful entity)
    (hcolumn : ∀ other buffer name, e.Accesses other buffer name →
      Translator.bindName select other buffer name = .ok e' → I.eval e' = I.eval e)
    (h : Translator.Resolves t select (fun d d' => I.eval d' = I.eval d) e e') :
    I.eval e' = I.eval e := by
  cases h with
  | settled => rfl
  | access haccess hbound => exact hcolumn _ _ _ haccess hbound
  | member hreceiver =>
      simp only [eval, evalOption_eq_map]
      rw [map_eq_map_of_rel hreceiver fun _ _ hd => hd]
  | call hreceiver hargs =>
      simp only [eval, evalOption_eq_map, evalAll_eq_map]
      rw [map_eq_map_of_rel hreceiver fun _ _ hd => hd,
        map_eq_map_of_forall₂ hargs fun _ _ hd => hd]
  | equalsCall hleft hright =>
      rw [hlaws.eval_condition, hlaws.equalsCall]
      simp only [eval, hleft, hright]
  | staticEqualsCall hleft hright =>
      rw [hlaws.eval_condition, hlaws.staticEqualsCall]
      simp only [eval, hleft, hright]
  | binary hleft hright =>
      rw [hlaws.eval_reconcile]
      simp only [eval, hleft, hright]
  | cast hoperand =>
      rw [hlaws.scalar, hlaws.cast]
      simp only [eval, hoperand]
  | unary hoperand => simp only [eval, hoperand]

theorem Lawful.eval_visit (hlaws : I.Lawful entity) (hrules : t.rules = .relational)
    (hquery : EntityQuery.ofEntity entity source = .ok query)
    (hselect : select.mapping = query.select.mapping) (hrow : e.OnlyRow query.row)
    (h : t.visit select e = .ok e') : I.eval e' = I.eval e := by
  refine Translator.visit_induction hrules (motive := fun e e' => I.eval e' = I.eval e)
    ?_ hrow h
  intro e e' hrow hstep
  refine hlaws.eval_of_resolves ?_ hstep
  intro other buffer name haccess hbound
  obtain ⟨haccess, property, mapping, hproperty, -, rfl⟩ :=
    EntityQuery.column_of_accesses hquery hselect hrow haccess hbound
  rw [hlaws.scalar, hlaws.access e name property haccess hproperty]

theorem Lawful.eval_toScalar (hlaws : I.Lawful entity) {s : Scalar}
    (h : t.toScalar e = .ok s) : I.eval s.toExpr = I.eval e := by
  unfold Translator.toScalar at h
  split at h
  · cases h
    rfl
  · cases h
  · cases h
  · obtain ⟨mapping, -, h⟩ := bind_eq_ok_iff.mp h
    cases h
    exact hlaws.scalar ..

theorem Lawful.eval_flag (hlaws : I.Lawful entity) (wanted : Bool) (s : Scalar) :
    I.eval (t.flag wanted s).toExpr = I.eval s.toExpr := by
  unfold Translator.flag
  split
  · calc I.eval s.asCondition.toExpr
        = I.eval s.inner := hlaws.scalar ..
      _ = I.eval s.toExpr := (hlaws.scalar ..).symm
  · rfl

/-! ## Host forms -/

def column? (entity : EntityType) (name : String) : Option Expr :=
  (entity.findProperty? name).map fun property =>
    .column (property.columnIn (Select.tableAlias entity.table))

def compared? (call : MethodCall) : Option (Expr × Expr) :=
  match decide (call.method.name = "Equals"), call.receiver, call.args with
  | true, some receiver, [other] => some (receiver, other)
  | true, none, [left, right] => some (left, right)
  | _, _, _ => none

/-- The interpretation that reads SQL nodes back as the host expressions they stand for. -/
def hostForm : Interpretation Expr where
  constant := .constant
  parameter := .parameter
  member receiver name type :=
    ((receiver.bind asRow?).bind fun row => column? row.1 name).getD (.member receiver name type)
  call receiver method args type :=
    let call : MethodCall := ⟨receiver, method, args, type⟩
    match compared? call with
    | some (left, right) => .binary .equal left right .bool
    | none =>
        match Translator.accessedRow? call, Translator.accessedName args[1]? with
        | some (entity, _), .ok name => (column? entity name).getD call.toExpr
        | _, _ => call.toExpr
  binary := .binary
  unary := .unary
  row := .row
  projected := .projected
  scalar inner _ _ := inner
  column := .column
  cast operand type _ := .unary .convert operand type
  function := .function
  fragment := .fragment

theorem hostForm_lawful (entity : EntityType) : hostForm.Lawful entity where
  scalar _ _ _ := rfl
  cast _ _ _ := rfl
  equalsCall _ _ _ _ := rfl
  staticEqualsCall _ _ _ _ := rfl
  access := by
    intro e name property haccess hproperty
    have hname : ∀ receiver args type,
        compared? ⟨receiver, .propertyAccessor, args, type⟩ = none := by
      intro receiver args type
      simp [compared?, MethodRef.propertyAccessor]
    have haccessor : MethodRef.propertyAccessor.isPropertyAccessor = true := by decide
    cases haccess with
    | member => simp [eval, hostForm, asRow?, column?, hproperty]
    | accessor | convertedAccessor =>
        simp [eval, hostForm, hname, Translator.accessedRow?, haccessor,
          Translator.stripObjectConversion, asRow?, Translator.accessedName, column?, hproperty]

/-! ## Translation -/

/--
The scalar that an expression over the row of a query is translated to means what
the expression means, whether a condition is wanted or not.
-/
theorem Lawful.eval_translate (hlaws : I.Lawful entity) (hrules : t.rules = .relational)
    (hquery : EntityQuery.ofEntity entity source = .ok query)
    (hselect : select.mapping = query.select.mapping) (hrow : e.OnlyRow query.row)
    (condition : Bool) {s : Scalar} (h : t.translate select e condition = .ok s) :
    I.eval s.toExpr = I.eval e := by
  obtain ⟨bound, hbound, scalar, hscalar, rfl⟩ := Translator.translate_eq_ok_iff.mp h
  calc I.eval (t.flag condition scalar).toExpr
      = I.eval scalar.toExpr := hlaws.eval_flag ..
    _ = I.eval bound := hlaws.eval_toScalar hscalar
    _ = I.eval e := hlaws.eval_visit hrules hquery hselect hrow hbound

theorem hostForm_eval_translate :
    let e := operation
      (equalsCall (convert (Expr.get Customers.query.row "Age" .int32) .int64) (literal (.int 30)))
      .andAlso (Expr.property (convert Customers.query.row .object) "Active" .bool)
    ∃ s, Customers.translator.translate Customers.query.select e true = .ok s ∧
      hostForm.eval s.toExpr = hostForm.eval e ∧
      hostForm.eval e = operation
        (operation (convert (.column ⟨"Age", "c", .int32, false⟩) .int64) .equal
          (literal (.int 30)))
        .andAlso (.column ⟨"Active", "c", .bool, false⟩) := by
  refine ⟨_, rfl, ?_, rfl⟩
  refine (hostForm_lawful Customers.entity).eval_translate (t := Customers.translator) rfl
    Customers.query_entity rfl ?_ true rfl
  simp [OnlyRow, Everywhere, operation, equalsCall, convert, Expr.get, Expr.property, literal,
    nodes, Customers.query, EntityQuery.rowOf, asRow?]

end Interpretation

end QueryBinding
