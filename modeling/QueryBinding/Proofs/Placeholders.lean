import QueryBinding.Expr.Build
import QueryBinding.Proofs.Origins

/-!
# Placeholders in bound expressions

A placeholder is consumed when a property is read through it.  A stray one, which no
access consumes, is refused at the root of an expression only: below the root it
stays in the scalar.
-/

namespace QueryBinding

open QueryBinding.Expr

namespace Expr

variable {c e : Expr}

def HasPlaceholder (e : Expr) : Prop :=
  e.Somewhere fun d => d.isPlaceholder

theorem hasPlaceholder_iff :
    e.HasPlaceholder ↔ e.isPlaceholder = true ∨ ∃ c ∈ e.parts, c.HasPlaceholder :=
  somewhere_iff

/-- Some placeholder is used otherwise than for reading a property. -/
inductive Stray : Expr → Prop
  | root {e : Expr} (h : e.isPlaceholder) : Stray e
  | part {c e : Expr} (haccess : ¬ e.IsAccess) (hc : c ∈ e.parts) (h : Stray c) : Stray e

theorem stray_iff :
    e.Stray ↔ e.isPlaceholder = true ∨ ¬ e.IsAccess ∧ ∃ c ∈ e.parts, c.Stray := by
  constructor
  · intro h
    cases h with
    | root h => exact .inl h
    | part haccess hc h => exact .inr ⟨haccess, _, hc, h⟩
  · rintro (h | ⟨haccess, c, hc, h⟩)
    · exact .root h
    · exact .part haccess hc h

theorem not_isAccess_of_name {receiver : Option Expr} {declaringType name : String}
    {args : List Expr} {type : HostType} (hname : name ≠ "Property") :
    ¬ (Expr.call receiver ⟨declaringType, name⟩ args type).IsAccess := by
  rintro ⟨entity, buffer, field, haccess⟩
  have hmethod := haccess.method_eq
  simp only [MethodRef.propertyAccessor, MethodRef.mk.injEq] at hmethod
  exact hname hmethod.2

theorem not_isAccess_binary (op : BinaryOp) (left right : Expr) (type : HostType) :
    ¬ (Expr.binary op left right type).IsAccess := by
  rintro ⟨entity, buffer, name, haccess⟩
  cases haccess

theorem not_isAccess_unary (op : UnaryOp) (operand : Expr) (type : HostType) :
    ¬ (Expr.unary op operand type).IsAccess := by
  rintro ⟨entity, buffer, name, haccess⟩
  cases haccess

/-! ## Nodes that binding makes -/

theorem hasPlaceholder_scalar (inner : Expr) (mapping : Option TypeMapping) (isCondition : Bool) :
    (Expr.scalar inner mapping isCondition).HasPlaceholder ↔ inner.HasPlaceholder := by
  rw [hasPlaceholder_iff]
  simp [isPlaceholder, parts]

theorem hasPlaceholder_binary (op : BinaryOp) (left right : Expr) (type : HostType) :
    (Expr.binary op left right type).HasPlaceholder ↔
      left.HasPlaceholder ∨ right.HasPlaceholder := by
  rw [hasPlaceholder_iff]
  simp [isPlaceholder, parts]

theorem not_hasPlaceholder_column (column : Column) : ¬ (Expr.column column).HasPlaceholder := by
  rw [hasPlaceholder_iff]
  simp [isPlaceholder, parts]

theorem hasPlaceholder_adopt (mapping : TypeMapping) (e : Expr) :
    (e.adopt mapping).HasPlaceholder ↔ e.HasPlaceholder := by
  unfold adopt
  split <;> simp only [hasPlaceholder_scalar]

theorem hasPlaceholder_reconcile (op : BinaryOp) (left right : Expr) (type : HostType) :
    (Expr.binary op left right type).reconcile.HasPlaceholder ↔
      left.HasPlaceholder ∨ right.HasPlaceholder := by
  simp only [reconcile, reconcileOperands, hasPlaceholder_binary]
  split <;> simp only [hasPlaceholder_adopt]

theorem hasPlaceholder_condition (left right : Expr) :
    (Equality.condition left right).toExpr.HasPlaceholder ↔
      left.HasPlaceholder ∨ right.HasPlaceholder := by
  simp only [Equality.condition, Scalar.condition, Scalar.toExpr, hasPlaceholder_scalar,
    hasPlaceholder_binary, Equality.alignOperands]
  split <;> simp only [Scalar.value, hasPlaceholder_scalar]

end Expr

namespace Translator

variable {t : Translator} {select : Select} {e e' : Expr} {s : Scalar}

theorem not_hasPlaceholder_bindName (hselect : select.Built) {entity : EntityType}
    {buffer bound : Expr} {name : String}
    (h : bindName select entity buffer name = .ok bound) : ¬ bound.HasPlaceholder := by
  obtain ⟨path, type, projection, column, -, -, hitem, hcolumn, rfl⟩ := bindName_eq_ok_iff.mp h
  obtain ⟨source, hbuilt⟩ := hselect path projection hitem
  obtain ⟨property, mapping, -, -, rfl⟩ := (hbuilt.find?_columns name column).mp hcolumn
  rw [Scalar.value, Scalar.toExpr, hasPlaceholder_scalar]
  exact not_hasPlaceholder_column _

private theorem exists_hasPlaceholder_iff {args args' : List Expr}
    (h : List.Forall₂ (fun d d' => d'.HasPlaceholder ↔ d.Stray) args args') :
    (∃ d' ∈ args', d'.HasPlaceholder) ↔ ∃ d ∈ args, d.Stray := by
  induction h with
  | nil => simp
  | cons hd _ ih => simp only [List.mem_cons, exists_eq_or_imp, hd, ih]

theorem hasPlaceholder_of_resolves (hselect : select.Built) (he : e.isHost)
    (h : Resolves t select (fun d d' => d'.HasPlaceholder ↔ d.Stray) e e') :
    e'.HasPlaceholder ↔ e.Stray := by
  cases h with
  | settled hsettled =>
      rw [hasPlaceholder_iff, stray_iff]
      cases e <;> simp_all [isSettled, isHost, parts]
  | access haccess hbound =>
      have hstray : ¬ e.Stray := by
        rw [stray_iff]
        rintro (hplaceholder | ⟨hnot, -⟩)
        · cases haccess <;> cases hplaceholder
        · exact hnot ⟨_, _, _, haccess⟩
      simp only [not_hasPlaceholder_bindName hselect hbound, hstray]
  | @member receiver receiver' _ _ hreceiver haccess =>
      rw [hasPlaceholder_iff, stray_iff]
      cases hreceiver <;> simp_all [isPlaceholder, parts]
  | call hreceiver hargs haccess =>
      have hall := exists_hasPlaceholder_iff hargs
      rw [hasPlaceholder_iff, stray_iff]
      cases hreceiver <;> simp_all [isPlaceholder, parts]
  | equalsCall hleft hright | staticEqualsCall hleft hright =>
      rw [hasPlaceholder_condition, stray_iff, hleft, hright]
      simp [isPlaceholder, parts, not_isAccess_of_name]
  | binary hleft hright =>
      rw [hasPlaceholder_reconcile, stray_iff, hleft, hright]
      simp [isPlaceholder, parts, not_isAccess_binary]
  | cast hoperand =>
      rw [hasPlaceholder_scalar, hasPlaceholder_iff, stray_iff]
      simp [isPlaceholder, parts, not_isAccess_unary, hoperand]
  | unary hoperand =>
      rw [hasPlaceholder_iff, stray_iff]
      simp [isPlaceholder, parts, not_isAccess_unary, hoperand]

theorem hasPlaceholder_visit (hrules : t.rules = .relational) (hselect : select.Built)
    (he : e.Everywhere fun d => d.isHost) (h : t.visit select e = .ok e') :
    e'.HasPlaceholder ↔ e.Stray := by
  refine visit_induction hrules (motive := fun e e' => e'.HasPlaceholder ↔ e.Stray) ?_ he h
  intro e e' he hstep
  exact hasPlaceholder_of_resolves hselect he.root hstep

/-! ## Whole translations -/

theorem hasPlaceholder_toScalar (h : t.toScalar e = .ok s) :
    s.toExpr.HasPlaceholder ↔ e.HasPlaceholder := by
  rcases toScalar_eq_ok_iff.mp h with rfl | ⟨-, -, mapping, -, rfl⟩
  · rfl
  · exact hasPlaceholder_scalar ..

theorem hasPlaceholder_flag (wanted : Bool) :
    (t.flag wanted s).toExpr.HasPlaceholder ↔ s.toExpr.HasPlaceholder := by
  rw [Scalar.toExpr, Scalar.toExpr, hasPlaceholder_scalar, hasPlaceholder_scalar, flag_inner]

theorem translate_of_translateChecked {condition : Bool}
    (h : t.translateChecked select e condition = .ok s) :
    t.translate select e condition = .ok s := by
  obtain ⟨scalar, hscalar, h⟩ := bind_eq_ok_iff.mp h
  split at h
  · cases h
  · cases h
    exact hscalar

/--
A placeholder at the root of an expression is refused.  In the scalar of any other
expression placeholders are left exactly when the expression has stray ones.
-/
theorem translateChecked_placeholders (hrules : t.rules = .relational) (hselect : select.Built)
    (he : e.Everywhere fun d => d.isHost) (condition : Bool) :
    (e.isPlaceholder = true →
      ∃ reason, t.translateChecked select e condition = .error (.unsupported reason)) ∧
    ∀ s, t.translateChecked select e condition = .ok s →
      (s.toExpr.HasPlaceholder ↔ e.Stray) := by
  constructor
  · intro hplaceholder
    cases e with
    | row entity buffer => exact ⟨.entityAsScalar entity.name, rfl⟩
    | projected path type => exact ⟨.projectionAsScalar path, rfl⟩
    | _ => cases hplaceholder
  · intro s h
    obtain ⟨bound, hbound, unflagged, hscalar, rfl⟩ :=
      translate_eq_ok_iff.mp (translate_of_translateChecked h)
    rw [hasPlaceholder_flag, hasPlaceholder_toScalar hscalar,
      hasPlaceholder_visit hrules hselect he hbound]

theorem translateChecked_placeholders_age :
    let e := operation (Expr.get Customers.query.row "Age" .int32) .greaterThan
      (literal (.int 30))
    ∃ s, Customers.translator.translateChecked Customers.query.select e true = .ok s ∧
      ¬ s.toExpr.HasPlaceholder := by
  intro e
  have hhost : e.Everywhere fun d => d.isHost := by
    simp [e, Everywhere, operation, Expr.get, literal, Customers.query, EntityQuery.rowOf, nodes,
      isHost]
  have hstray : ¬ e.Stray := by
    intro h
    rcases stray_iff.mp h with hroot | ⟨-, c, hc, hc'⟩
    · cases hroot
    · have hparts : c = Expr.get Customers.query.row "Age" .int32 ∨ c = literal (.int 30) := by
        simpa [e, operation, parts] using hc
      rcases hparts with rfl | rfl
      · rcases stray_iff.mp hc' with hroot | ⟨haccess, -⟩
        · cases hroot
        · exact haccess ⟨_, _, _, .member ..⟩
      · rcases stray_iff.mp hc' with hroot | ⟨-, d, hd, -⟩
        · cases hroot
        · cases hd
  refine ⟨_, rfl, fun h => hstray ?_⟩
  have hplaceholders := translateChecked_placeholders (t := Customers.translator) rfl
    Customers.builtWith_query.built hhost true
  exact (hplaceholders.2 _ rfl).mp h

theorem hasPlaceholder_row_equal_row :
    let e := operation Customers.query.row .equal Customers.query.row
    Customers.query.select.Built ∧ (e.Everywhere fun d => d.isHost) ∧
      ∃ s, Customers.translator.translateChecked Customers.query.select e true = .ok s ∧
        s.toExpr.HasPlaceholder := by
  refine ⟨Customers.builtWith_query.built, ?_,
    ⟨operation Customers.query.row .equal Customers.query.row, some ⟨"boolean", .bool⟩, true⟩,
    rfl, ?_⟩
  · simp [Everywhere, operation, Customers.query, EntityQuery.rowOf, nodes, isHost]
  · rw [Scalar.toExpr, hasPlaceholder_scalar, operation, hasPlaceholder_binary]
    exact .inl (hasPlaceholder_iff.mpr (.inl rfl))

end Translator

end QueryBinding
