import QueryBinding.Expr.Build
import QueryBinding.Proofs.Bare
import QueryBinding.Proofs.Origins
import QueryBinding.Proofs.PendingCalls

/-!
# Spellings of one comparison

Two expressions are compared by the operator, by `Equals` on one of them or by the static
`Equals`.  The two calls agree wherever they are translated.  The operator computes the
same as the calls and differs from them in nothing but the scalars that the operands are
sent as.
-/

namespace QueryBinding

open QueryBinding.Expr

/--
How one of two compared operands is sent: as it is if it is a scalar or if neither of them
is one, and otherwise with the mapping of the other one.
-/
structure Expr.SentBeside (operand other sent : Expr) : Prop where
  scalar : operand.isScalar = true → sent = operand
  plain : operand.isScalar = false → other.isScalar = false → sent = operand
  value : ∀ inner mapping flag, operand.isScalar = false → other = .scalar inner mapping flag →
    sent = .scalar operand mapping false

theorem Equality.sentBeside_alignOperands (left right : Expr) :
    left.SentBeside right (alignOperands left right).1 ∧
      right.SentBeside left (alignOperands left right).2 := by
  unfold alignOperands
  cases hl : left.asScalar? with
  | some s =>
      obtain rfl := asScalar?_eq_some_iff.mp hl
      cases hr : right.asScalar? with
      | some s' =>
          obtain rfl := asScalar?_eq_some_iff.mp hr
          constructor <;> constructor <;> simp [Scalar.toExpr, isScalar, asScalar?]
      | none =>
          have hscalar : right.isScalar = false := by rw [isScalar, hr]; rfl
          constructor <;> constructor <;>
            simp_all [Scalar.toExpr, Scalar.value, isScalar, asScalar?]
  | none =>
      have hscalar : left.isScalar = false := by rw [isScalar, hl]; rfl
      cases hr : right.asScalar? with
      | some s' =>
          obtain rfl := asScalar?_eq_some_iff.mp hr
          constructor <;> constructor <;>
            simp_all [Scalar.toExpr, Scalar.value, isScalar, asScalar?]
      | none =>
          have hscalar' : right.isScalar = false := by rw [isScalar, hr]; rfl
          constructor <;> constructor <;> simp only [implies_true]
          · rintro inner mapping flag - rfl
            cases hscalar'
          · rintro inner mapping flag - rfl
            cases hscalar

namespace Translator

variable {t : Translator} {source : MappingSource} {select : Select} {a b a' b' : Expr}
  {condition : Bool} {fault : Fault}

/-! ## What is done with the bound operands -/

theorem visit_equalsCall (t : Translator) (select : Select) (a b : Expr) :
    t.visit select (equalsCall a b) =
      t.visit select a >>= fun a' => t.visit select b >>= fun b' =>
        t.resolveCall select ⟨some a', ⟨a.type.name, "Equals"⟩, [b'], .bool⟩ := by
  rw [equalsCall, visit, visitOption, visitAll, visitAll]
  cases t.visit select a <;> cases t.visit select b <;> rfl

theorem visit_staticEqualsCall (t : Translator) (select : Select) (a b : Expr) :
    t.visit select (staticEqualsCall a b) =
      t.visit select a >>= fun a' => t.visit select b >>= fun b' =>
        t.resolveCall select ⟨none, ⟨"Object", "Equals"⟩, [a', b'], .bool⟩ := by
  rw [staticEqualsCall, visit, visitOption, visitAll, visitAll, visitAll]
  cases t.visit select a <;> cases t.visit select b <;> rfl

theorem visit_equal (t : Translator) (select : Select) (a b : Expr) :
    t.visit select (operation a .equal b) =
      t.visit select a >>= fun a' => t.visit select b >>= fun b' =>
        .ok (Expr.binary .equal a' b' .bool).reconcile := by
  rw [operation, visit]
  cases t.visit select a <;> cases t.visit select b <;> rfl

theorem resolveCall_of_operands (hrules : t.rules = .relational) (select : Select)
    {call : MethodCall} (hname : call.method.name = "Equals")
    (h : call.receiver = some a' ∧ call.args = [b'] ∨
      call.receiver = none ∧ call.args = [a', b']) :
    t.resolveCall select call =
      .ok (if a'.type = b'.type then (Equality.condition a' b').toExpr else call.toExpr) := by
  have hrow : accessedRow? call = none := accessedRow?_eq_none_of_name (by rw [hname]; decide)
  simp only [resolveCall, hrow, hrules, RuleSet.rewriteCall?_relational,
    Equality.rewrite?_of_operands hname h]
  split <;> rfl

/-! ## Equality calls -/

theorem translate_of_visit_error {e : Expr} (h : t.visit select e = .error fault) :
    t.translate select e condition = .error fault := by
  rw [translate, h]
  rfl

theorem visit_of_left_error (ha : t.visit select a = .error fault) :
    t.visit select (equalsCall a b) = .error fault ∧
      t.visit select (staticEqualsCall a b) = .error fault := by
  rw [visit_equalsCall, visit_staticEqualsCall, ha]
  exact ⟨rfl, rfl⟩

theorem visit_of_right_error (ha : t.visit select a = .ok a')
    (hb : t.visit select b = .error fault) :
    t.visit select (equalsCall a b) = .error fault ∧
      t.visit select (staticEqualsCall a b) = .error fault := by
  rw [visit_equalsCall, visit_staticEqualsCall, ha, hb]
  exact ⟨rfl, rfl⟩

theorem visit_of_operands (hrules : t.rules = .relational) (ha : t.visit select a = .ok a')
    (hb : t.visit select b = .ok b') :
    t.visit select (equalsCall a b) =
        .ok (if a'.type = b'.type then (Equality.condition a' b').toExpr
          else .call (some a') ⟨a.type.name, "Equals"⟩ [b'] .bool) ∧
      t.visit select (staticEqualsCall a b) =
        .ok (if a'.type = b'.type then (Equality.condition a' b').toExpr
          else .call none ⟨"Object", "Equals"⟩ [a', b'] .bool) := by
  let call : MethodCall := ⟨some a', ⟨a.type.name, "Equals"⟩, [b'], .bool⟩
  let static : MethodCall := ⟨none, ⟨"Object", "Equals"⟩, [a', b'], .bool⟩
  have hcall : call.method.name = "Equals" := rfl
  have hstatic : static.method.name = "Equals" := rfl
  rw [visit_equalsCall, visit_staticEqualsCall, ha, hb]
  exact ⟨resolveCall_of_operands hrules select hcall (.inl ⟨rfl, rfl⟩),
    resolveCall_of_operands hrules select hstatic (.inr ⟨rfl, rfl⟩)⟩

theorem translate_of_visit_condition {e inner : Expr}
    (h : t.visit select e = .ok (Scalar.condition inner).toExpr) :
    t.translate select e condition = .ok (.condition inner) := by
  rw [translate, h]
  exact congrArg Except.ok (flag_of_isCondition rfl)

theorem translate_of_visit_bool {e e' : Expr} (hbool : t.source.mapping .bool = .ok t.boolMapping)
    (h : t.visit select e = .ok e') (hscalar : e'.isScalar = false)
    (hplaceholder : e'.isPlaceholder = false) (htype : e'.type = .bool) (condition : Bool) :
    t.translate select e condition = .ok ⟨e', some t.boolMapping, condition⟩ := by
  have hmapping : t.source.mapping e'.type = .ok t.boolMapping := by rw [htype, hbool]
  have hmade : t.toScalar e' = .ok (.value e' (some t.boolMapping)) :=
    toScalar_eq_ok_iff.mpr (.inr ⟨hscalar, hplaceholder, t.boolMapping, hmapping, rfl⟩)
  rw [translate, h]
  simp only [bind, Except.bind, hmade]
  cases condition <;> simp [flag, Scalar.value, Scalar.asCondition, pure, Except.pure]

theorem translateChecked_of_call {e : Expr} {mapping : Option TypeMapping} (call : MethodCall)
    (h : t.translate select e condition = .ok ⟨call.toExpr, mapping, condition⟩) :
    t.translateChecked select e condition =
      .error (.unsupported (.pendingCall call.toExpr.render)) := by
  rw [translateChecked_of_ok h]
  rfl

/--
The two calls of `Equals` fail together, as the first operand does that fails.  Operands
that are bound to one type give the same condition, in which an operand that is no scalar
is sent with the mapping of the other one.  Operands of two types leave both calls as they
are, and checked translation refuses them.
-/
theorem translate_equals_calls {source : MappingSource}
    (ht : Compiler.translator ⟨source, .relational⟩ = .ok t) (select : Select) (a b : Expr)
    (condition : Bool) :
    (∀ fault, t.visit select a = .error fault ∨
        (∃ a', t.visit select a = .ok a') ∧ t.visit select b = .error fault →
      t.translate select (equalsCall a b) condition = .error fault ∧
        t.translate select (staticEqualsCall a b) condition = .error fault) ∧
    ∀ a' b', t.visit select a = .ok a' → t.visit select b = .ok b' →
      (a'.type = b'.type →
        ∃ left right, a'.SentBeside b' left ∧ b'.SentBeside a' right ∧
          t.translate select (equalsCall a b) condition =
            .ok ⟨.binary .equal left right .bool, none, true⟩ ∧
          t.translate select (staticEqualsCall a b) condition =
            .ok ⟨.binary .equal left right .bool, none, true⟩) ∧
      (a'.type ≠ b'.type →
        let call : MethodCall := ⟨some a', ⟨a.type.name, "Equals"⟩, [b'], .bool⟩
        let staticCall : MethodCall := ⟨none, ⟨"Object", "Equals"⟩, [a', b'], .bool⟩
        t.translate select (equalsCall a b) condition =
            .ok ⟨call.toExpr, some t.boolMapping, condition⟩ ∧
          t.translate select (staticEqualsCall a b) condition =
            .ok ⟨staticCall.toExpr, some t.boolMapping, condition⟩ ∧
          t.translateChecked select (equalsCall a b) condition =
            .error (.unsupported (.pendingCall call.toExpr.render)) ∧
          t.translateChecked select (staticEqualsCall a b) condition =
            .error (.unsupported (.pendingCall staticCall.toExpr.render))) := by
  obtain ⟨hsource, hrules, hmapping⟩ := Compiler.translator_eq_ok_iff.mp ht
  have hbool : t.source.mapping .bool = .ok t.boolMapping := by rw [hsource, hmapping]
  refine ⟨?failing, ?bound⟩
  case failing =>
    rintro fault (ha | ⟨⟨a', ha⟩, hb⟩)
    · obtain ⟨hcall, hstatic⟩ := visit_of_left_error (b := b) ha
      exact ⟨translate_of_visit_error hcall, translate_of_visit_error hstatic⟩
    · obtain ⟨hcall, hstatic⟩ := visit_of_right_error ha hb
      exact ⟨translate_of_visit_error hcall, translate_of_visit_error hstatic⟩
  case bound =>
    intro a' b' ha hb
    constructor
    · intro htype
      obtain ⟨hcall, hstatic⟩ := visit_of_operands hrules ha hb
      rw [if_pos htype] at hcall hstatic
      obtain ⟨hleft, hright⟩ := Equality.sentBeside_alignOperands a' b'
      exact ⟨_, _, hleft, hright, translate_of_visit_condition hcall,
        translate_of_visit_condition hstatic⟩
    · intro htype call staticCall
      obtain ⟨hcall, hstatic⟩ := visit_of_operands hrules ha hb
      rw [if_neg htype] at hcall hstatic
      have hcall' := translate_of_visit_bool hbool hcall rfl rfl rfl condition
      have hstatic' := translate_of_visit_bool hbool hstatic rfl rfl rfl condition
      exact ⟨hcall', hstatic', translateChecked_of_call call hcall',
        translateChecked_of_call staticCall hstatic'⟩

theorem translate_equals_calls_name :
    let t := Customers.translator
    let select := Customers.query.select
    let name := Expr.get Customers.query.row "Name" .string
    let ann := literal (.string "Ann")
    let column := Scalar.value (.column ⟨"full_name", "c", .string, false⟩)
      (some ⟨"text", .string⟩)
    let sent := Scalar.value ann (some ⟨"text", .string⟩)
    let same : Scalar := .condition (.binary .equal column.toExpr sent.toExpr .bool)
    t.translate select (equalsCall name ann) true = .ok same ∧
      t.translate select (staticEqualsCall name ann) true = .ok same ∧
      t.translateChecked select (staticEqualsCall name (literal (.int 30))) true =
        .error (.unsupported (.pendingCall "Object.Equals(c.full_name, 30)")) ∧
      t.translate select (equalsCall (Expr.get Customers.query.row "Nme" .string) name) false =
        .error (.undefinedProperty "Customer" "Nme") := by
  intro t select name ann column sent same
  have hname : t.visit select name = .ok column.toExpr := rfl
  have hcalls := translate_equals_calls Customers.translator_relational select
  obtain ⟨left, right, hleft, hright, hcall, hstatic⟩ :=
    ((hcalls name ann true).2 _ _ hname rfl).1 rfl
  obtain rfl := hleft.scalar rfl
  obtain rfl := hright.value _ _ _ rfl rfl
  refine ⟨hcall, hstatic, ?refused, ?failing⟩
  case refused =>
    have htypes : column.toExpr.type ≠ (literal (.int 30)).type := by decide
    exact (((hcalls name (literal (.int 30)) true).2 _ _ hname rfl).2 htypes).2.2.2
  case failing => exact ((hcalls _ name false).1 _ (.inl rfl)).1

/-! ## The operator beside the call -/

/--
The operator and the call compile to one comparison, up to the scalars in it.  The texts
agree, and if each operand is an input or a scalar with a mapping, then the scalars agree
as well.
-/
theorem translate_equal_operator {source : MappingSource}
    (ht : Compiler.translator ⟨source, .relational⟩ = .ok t)
    (ha : t.visit select a = .ok a') (hb : t.visit select b = .ok b')
    (htype : a'.type = b'.type) :
    ∃ byOperator byCall,
      t.translate select (operation a .equal b) true = .ok byOperator ∧
      t.translate select (equalsCall a b) true = .ok byCall ∧
      byOperator.isCondition = true ∧ byCall.isCondition = true ∧
      byOperator.inner.bare = .binary .equal a'.bare b'.bare .bool ∧
      byCall.inner.bare = .binary .equal a'.bare b'.bare .bool ∧
      byOperator.render = byCall.render ∧
      ((a'.isInput ∨ a'.mapping?.isSome) → (b'.isInput ∨ b'.mapping?.isSome) →
        byOperator.inner = byCall.inner) := by
  obtain ⟨hsource, hrules, hmapping⟩ := Compiler.translator_eq_ok_iff.mp ht
  have hbool : t.source.mapping .bool = .ok t.boolMapping := by rw [hsource, hmapping]
  have hoperator : t.visit select (operation a .equal b) =
      .ok (Expr.binary .equal a' b' .bool).reconcile := by
    rw [visit_equal, ha, hb]
    rfl
  have hcall := (visit_of_operands hrules ha hb).1
  rw [if_pos htype] at hcall
  obtain ⟨hleft, hright⟩ := bare_reconcileOperands a' b'
  obtain ⟨hleft', hright'⟩ := bare_alignOperands a' b'
  have hbare : (Expr.binary .equal a' b' .bool).reconcile.bare =
      .binary .equal a'.bare b'.bare .bool := by
    simp only [reconcile, bare, hleft, hright]
  have hbare' : (Equality.condition a' b').inner.bare = .binary .equal a'.bare b'.bare .bool := by
    simp only [Equality.condition, Scalar.condition, bare, hleft', hright']
  refine ⟨_, _, translate_of_visit_bool hbool hoperator rfl rfl rfl true,
    translate_of_visit_condition hcall, rfl, rfl, hbare, hbare', ?texts, ?scalars⟩
  case texts =>
    have htext := (render_bare (Expr.binary .equal a' b' .bool).reconcile).symm.trans
      (congrArg render (hbare.trans hbare'.symm))
    exact htext.trans (render_bare _)
  case scalars =>
    intro hinput hinput'
    have hsame := alignOperands_eq_reconcileOperands hinput hinput'
    simp only [reconcile, ← hsame]
    rfl

theorem translate_equal_operator_age :
    let t := Customers.translator
    let select := Customers.query.select
    let age := Expr.get Customers.query.row "Age" .int32
    let least := Expr.parameter "least" .int32
    ∃ byOperator byCall,
      t.translate select (operation least .equal age) true = .ok byOperator ∧
      t.translate select (equalsCall least age) true = .ok byCall ∧
      byOperator.isCondition = true ∧ byCall.isCondition = true ∧
      byOperator.inner = byCall.inner ∧ byCall.render = "(@least = c.Age)" := by
  intro t select age least
  let column := Scalar.value (.column ⟨"Age", "c", .int32, false⟩) (some ⟨"integer", .int32⟩)
  have hage : t.visit select age = .ok column.toExpr := rfl
  obtain ⟨byOperator, byCall, hoperator, hcall, hcondition, hcondition', hbare, hbare', htext,
    hinner⟩ := translate_equal_operator Customers.translator_relational (a := least) rfl hage rfl
  have hrender : byCall.render = "(@least = c.Age)" := by
    rw [Scalar.render, ← render_bare, hbare']
    rfl
  exact ⟨byOperator, byCall, hoperator, hcall, hcondition, hcondition',
    hinner (.inl rfl) (.inr rfl), hrender⟩

end Translator

end QueryBinding
