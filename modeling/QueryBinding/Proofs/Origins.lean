import QueryBinding.Proofs.Binding

/-!
# Where scalars come from

The scalar of an expression is the column of a property, the condition of an
equality call, a cast, or what binding left, wrapped with the mapping of its type.
The flag for conditions is put on afterwards and changes nothing else.
-/

namespace QueryBinding

open QueryBinding.Expr

theorem Scalar.ext_iff {s s' : Scalar} :
    s = s' ↔ s.inner = s'.inner ∧ s.mapping = s'.mapping ∧ s.isCondition = s'.isCondition := by
  cases s
  cases s'
  simp

theorem Scalar.toExpr_inj {s s' : Scalar} : s.toExpr = s'.toExpr ↔ s = s' := by
  simp [toExpr, Scalar.ext_iff]

namespace Translator

variable {t : Translator} {select : Select} {e e' : Expr} {s : Scalar}

def Rebuilds (t : Translator) (select : Select) (e : Expr) (call : MethodCall) : Prop :=
  ∃ receiver args, e = .call receiver call.method args call.type ∧
    t.visitOption select receiver = .ok call.receiver ∧
    t.visitAll select args = .ok call.args

/-- The scalars that an expression can give before the flag for conditions is put on. -/
inductive Yields (t : Translator) (select : Select) : Expr → Scalar → Prop
  | column {e : Expr} {s : Scalar} {entity : EntityType} {buffer : Expr} {name : String}
      (haccess : e.Accesses entity buffer name)
      (hbound : bindName select entity buffer name = .ok s.toExpr) : Yields t select e s
  | equality {e : Expr} {s : Scalar} {call : MethodCall} (hcall : t.Rebuilds select e call)
      (hrewrite : Equality.rewrite? call = some s.toExpr) : Yields t select e s
  | cast {operand operand' : Expr} {type : HostType} {mapping : TypeMapping}
      (hoperand : t.visit select operand = .ok operand')
      (hmapping : t.source.mapping type = .ok mapping) :
      Yields t select (.unary .convert operand type)
        (.value (.cast operand' type mapping.storeType) (some mapping))
  | wrapped {e e' : Expr} {mapping : TypeMapping} (hbound : t.visit select e = .ok e')
      (hscalar : e'.isScalar = false) (hplaceholder : e'.isPlaceholder = false)
      (hmapping : t.source.mapping e'.type = .ok mapping) :
      Yields t select e (.value e' (some mapping))

theorem toScalar_eq_ok_iff :
    t.toScalar e = .ok s ↔ e = s.toExpr ∨
      e.isScalar = false ∧ e.isPlaceholder = false ∧
        ∃ mapping, t.source.mapping e.type = .ok mapping ∧ .value e (some mapping) = s := by
  unfold toScalar
  split
  · simp [Scalar.toExpr, isScalar, asScalar?, Scalar.ext_iff]
  · simp [Scalar.toExpr, isPlaceholder]
  · simp [Scalar.toExpr, isPlaceholder]
  · next hscalar hrow hprojected =>
      have hkinds : e.isScalar = false ∧ e.isPlaceholder = false ∧ e ≠ s.toExpr := by
        cases e <;> simp_all [isScalar, asScalar?, isPlaceholder, Scalar.toExpr]
      rw [bind_eq_ok_iff]
      simp only [pure_eq_ok_iff, hkinds.1, hkinds.2.1, hkinds.2.2, true_and, false_or]

theorem yields_of_visit_call (hrules : t.rules = .relational) {receiver : Option Expr}
    {method : MethodRef} {args : List Expr} {type : HostType}
    (h : t.visit select (.call receiver method args type) = .ok s.toExpr) :
    t.Yields select (.call receiver method args type) s := by
  obtain ⟨receiver', hreceiver, args', hargs, h⟩ := visit_call_eq_ok_iff.mp h
  rcases resolveCall_eq_ok hrules h with ⟨entity, buffer, name, hread, hcolumn⟩ |
    ⟨-, hrewrite | ⟨-, hrebuilt⟩⟩
  · rw [visitAll_eq_ok_iff] at hargs
    exact .column ((accesses_call_iff hrules hargs).mp hread) hcolumn
  · exact .equality ⟨receiver, args, rfl, hreceiver, hargs⟩ hrewrite
  · cases hrebuilt

theorem yields_of_visit (hrules : t.rules = .relational) (he : e.isScalar = false)
    (h : t.visit select e = .ok s.toExpr) : t.Yields select e s := by
  cases e with
  | call => exact yields_of_visit_call hrules h
  | member receiver name type =>
      obtain ⟨receiver', hreceiver, h⟩ := visit_member_eq_ok_iff.mp h
      rw [visitOption_eq_ok_iff] at hreceiver
      rcases resolveMember_eq_ok hrules h with ⟨entity, buffer, field, hread, hcolumn⟩ |
        ⟨-, hrebuilt⟩
      · exact .column ((accesses_member_iff hrules hreceiver).mp hread) hcolumn
      · cases hrebuilt
  | binary op left right type =>
      obtain ⟨left', -, right', -, h⟩ := visit_binary_eq_ok_iff.mp h
      cases h
  | unary op operand type =>
      obtain ⟨operand', hoperand, h⟩ := visit_unary_eq_ok_iff.mp h
      rcases resolveUnary_eq_ok h with ⟨rfl, -, -, mapping, hmapping, hcast⟩ | ⟨-, hrebuilt⟩
      · have hvalue : s.toExpr =
            (Scalar.value (.cast operand' type mapping.storeType) (some mapping)).toExpr := hcast
        obtain rfl := Scalar.toExpr_inj.mp hvalue
        exact .cast hoperand hmapping
      · cases hrebuilt
  | scalar => cases he
  | _ =>
      rw [visit_of_isSettled rfl] at h
      cases h

theorem yields_of_toScalar (hrules : t.rules = .relational) (he : e.isScalar = false)
    (hbound : t.visit select e = .ok e') (hscalar : t.toScalar e' = .ok s) :
    t.Yields select e s := by
  rcases toScalar_eq_ok_iff.mp hscalar with rfl |
    ⟨hkind, hplaceholder, mapping, hmapping, rfl⟩
  · exact yields_of_visit hrules he hbound
  · exact .wrapped hbound hkind hplaceholder hmapping

theorem accessedRow?_eq_none_of_name {call : MethodCall} (h : call.method.name ≠ "Property") :
    accessedRow? call = none := by
  have hmethod : call.method.isPropertyAccessor = false := by
    simp only [MethodRef.isPropertyAccessor, decide_eq_false_iff_not]
    intro heq
    exact h (by rw [heq]; rfl)
  simp [accessedRow?, hmethod]

theorem visit_of_rebuilds (hrules : t.rules = .relational) {call : MethodCall} {answer : Expr}
    (hcall : t.Rebuilds select e call) (hrewrite : Equality.rewrite? call = some answer) :
    t.visit select e = .ok answer := by
  obtain ⟨receiver, args, rfl, hreceiver, hargs⟩ := hcall
  obtain ⟨left, right, hoperands, -, -⟩ := Equality.rewrite?_eq_some_iff.mp hrewrite
  have hname := (Equality.operands?_eq_some_iff.mp hoperands).1
  have hrow : accessedRow? call = none := accessedRow?_eq_none_of_name (by rw [hname]; decide)
  refine visit_call_eq_ok_iff.mpr ⟨_, hreceiver, _, hargs, ?_⟩
  rw [resolveCall]
  simp only [hrow, hrules, RuleSet.rewriteCall?_relational, hrewrite, Option.getD_some]

/-! ## The flag for conditions -/

@[simp] theorem flag_inner (wanted : Bool) : (t.flag wanted s).inner = s.inner := by
  unfold flag
  split <;> rfl

@[simp] theorem flag_mapping (wanted : Bool) : (t.flag wanted s).mapping = s.mapping := by
  unfold flag
  split <;> rfl

@[simp] theorem flag_type (wanted : Bool) : (t.flag wanted s).type = s.type := by
  rw [Scalar.type, flag_inner, Scalar.type]

theorem flag_isCondition (wanted : Bool) :
    (t.flag wanted s).isCondition = true ↔
      s.isCondition = true ∨ wanted = true ∧ s.mapping = some t.boolMapping := by
  unfold flag
  cases hcondition : s.isCondition <;> cases wanted <;>
    by_cases hmapping : s.mapping = some t.boolMapping <;>
    simp [hcondition, hmapping, Scalar.asCondition]

theorem flag_isCondition_eq_false_iff :
    (t.flag true s).isCondition = false ↔
      s.isCondition = false ∧ s.mapping ≠ some t.boolMapping := by
  rw [← Bool.not_eq_true, flag_isCondition]
  simp

theorem flag_of_isCondition {wanted : Bool} (h : s.isCondition = true) : t.flag wanted s = s := by
  simp [flag, h]

/-! ## Types and mappings -/

/--
Over a table of store types, a scalar has the mapping of its type, or it is the
unmapped condition of an equality call.
-/
theorem Yields.mapping_or_condition {types : StoreTypes} (htypes : t.source = types.source)
    (hselect : select.BuiltWith types.source) (h : t.Yields select e s) :
    (s.isCondition = false ∧ ∃ mapping, s.mapping = some mapping ∧ mapping.hostType = s.type) ∨
    (s.isCondition = true ∧ s.mapping = none ∧ s.type = .bool ∧
      ∃ call, t.Rebuilds select e call ∧ Equality.rewrite? call = some s.toExpr) := by
  cases h with
  | column haccess hbound =>
      obtain ⟨path, type, projection, property, mapping, -, -, -, hmapping, hcolumn⟩ :=
        column_of_bindName hselect hbound
      obtain rfl : s = .value (.column (property.columnIn projection.tableAlias)) (some mapping) :=
        Scalar.toExpr_inj.mp hcolumn
      exact .inl ⟨rfl, mapping, rfl, hostType_of_typeMapping hmapping⟩
  | equality hcall hrewrite =>
      obtain ⟨left, right, -, -, hcondition⟩ := Equality.rewrite?_eq_some_iff.mp hrewrite
      obtain rfl := Scalar.toExpr_inj.mp hcondition
      exact .inr ⟨rfl, rfl, rfl, _, hcall, hrewrite⟩
  | cast hoperand hmapping =>
      rw [htypes] at hmapping
      exact .inl ⟨rfl, _, rfl, StoreTypes.hostType_of_mapping hmapping⟩
  | wrapped hbound hscalar hplaceholder hmapping =>
      rw [htypes] at hmapping
      exact .inl ⟨rfl, _, rfl, StoreTypes.hostType_of_mapping hmapping⟩

end Translator

/-! ## Compilers over tables -/

theorem MappingSource.boolMapping_eq_ok_iff {source : MappingSource} {mapping : TypeMapping} :
    source.boolMapping = .ok mapping ↔ source.mapping .bool = .ok mapping := by
  unfold boolMapping MappingSource.mapping
  split <;> simp

theorem Compiler.translator_eq_ok_iff {compiler : Compiler} {t : Translator} :
    compiler.translator = .ok t ↔
      t.source = compiler.source ∧ t.rules = compiler.rules ∧
        compiler.source.mapping .bool = .ok t.boolMapping := by
  obtain ⟨source, rules, boolMapping⟩ := t
  simp only [translator, Translator.create, bind_eq_ok_iff, pure_eq_ok_iff,
    MappingSource.boolMapping_eq_ok_iff, Translator.mk.injEq]
  constructor
  · rintro ⟨mapping, hmapping, rfl, rfl, rfl⟩
    exact ⟨rfl, rfl, hmapping⟩
  · rintro ⟨rfl, rfl, hmapping⟩
    exact ⟨boolMapping, hmapping, rfl, rfl, rfl⟩

end QueryBinding
