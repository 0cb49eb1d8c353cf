import QueryBinding.Proofs.Binding

/-!
# Forms of bound expressions

Whether an expression over the row of an entity is bound to a scalar, and the type
of what it is bound to, can be read off the expression and the entity alone.  The
types decide about equality calls, so the two go together.
-/

namespace QueryBinding

open QueryBinding.Expr

namespace Expr

variable {e : Expr} {entity : EntityType} {property : Property} {name : String}

/-! ## Reading properties -/

def readName? : Expr → Option String
  | .member receiver name _ => (receiver.bind asRow?).map fun _ => name
  | .call receiver method args type =>
      (Translator.accessedRow? ⟨receiver, method, args, type⟩).bind fun _ =>
        (Translator.accessedName args[1]?).toOption
  | _ => none

def readProperty? (entity : EntityType) (e : Expr) : Option Property :=
  e.readName?.bind entity.findProperty?

theorem readName?_eq_some_iff :
    e.readName? = some name ↔ ∃ entity buffer, e.Accesses entity buffer name := by
  cases e with
  | member receiver field type =>
      simp only [readName?, Option.map_eq_some_iff, Option.bind_eq_some_iff]
      constructor
      · rintro ⟨⟨entity, buffer⟩, ⟨r, rfl, hrow⟩, rfl⟩
        obtain rfl := asRow?_eq_some_iff.mp hrow
        exact ⟨entity, buffer, .member ..⟩
      · rintro ⟨entity, buffer, haccess⟩
        cases haccess
        exact ⟨⟨entity, buffer⟩, ⟨_, rfl, rfl⟩, rfl⟩
  | call receiver method args type =>
      let call : MethodCall := ⟨receiver, method, args, type⟩
      have haccess : ∀ entity buffer, call.toExpr.Accesses entity buffer name ↔
          Translator.accessedRow? call = some (entity, buffer) ∧
            Translator.accessedName call.args[1]? = .ok name :=
        fun _ _ => Translator.accesses_toExpr_iff
      simp only [MethodCall.toExpr, call] at haccess
      simp [readName?, haccess, Option.bind_eq_some_iff, toOption_eq_some_iff]
  | _ =>
      simp only [readName?, reduceCtorEq, false_iff]
      rintro ⟨entity, buffer, haccess⟩
      cases haccess

theorem readProperty?_of_accesses {other : EntityType} {buffer : Expr}
    (haccess : e.Accesses other buffer name) :
    e.readProperty? entity = entity.findProperty? name := by
  rw [readProperty?, readName?_eq_some_iff.mpr ⟨other, buffer, haccess⟩, Option.bind_some]

theorem readProperty?_of_not_isAccess (h : ¬ e.IsAccess) : e.readProperty? entity = none := by
  rw [readProperty?, Option.bind_eq_none_iff]
  intro name hname
  obtain ⟨other, buffer, haccess⟩ := readName?_eq_some_iff.mp hname
  exact (h ⟨other, buffer, name, haccess⟩).elim

/-! ## Types and scalars -/

def comparesTypes : Option HostType → List HostType → Bool
  | some left, [right] => left = right
  | none, [left, right] => left = right
  | _, _ => false

mutual

/-- The type that binding gives to an expression over the row of an entity. -/
def boundType (entity : EntityType) : Expr → HostType
  | .call receiver method args type =>
      if method.name = "Equals" ∧
          comparesTypes (boundTypeOption entity receiver) (boundTypeAll entity args) then
        .bool
      else
        ((Expr.call receiver method args type).readProperty? entity).elim type Property.hostType
  | e => (e.readProperty? entity).elim e.type Property.hostType

def boundTypeOption (entity : EntityType) : Option Expr → Option HostType
  | some e => some (boundType entity e)
  | none => none

def boundTypeAll (entity : EntityType) : List Expr → List HostType
  | [] => []
  | e :: rest => boundType entity e :: boundTypeAll entity rest

end

@[simp] theorem boundTypeOption_eq_map (entity : EntityType) (e : Option Expr) :
    boundTypeOption entity e = e.map (boundType entity) := by
  cases e <;> rfl

@[simp] theorem boundTypeAll_eq_map (entity : EntityType) (es : List Expr) :
    boundTypeAll entity es = es.map (boundType entity) := by
  induction es with
  | nil => rfl
  | cons e rest ih => rw [boundTypeAll, ih, List.map_cons]

def isComparison (entity : EntityType) : Expr → Bool
  | .call receiver method args _ =>
      method.name = "Equals" &&
        comparesTypes (receiver.map (boundType entity)) (args.map (boundType entity))
  | _ => false

/-- Whether binding makes a scalar of an expression over the row of an entity. -/
def becomesScalar (entity : EntityType) : Expr → Bool
  | .scalar .. => true
  | .unary op operand type => op = .convert && operand.becomesScalar entity && type ≠ .object
  | e => (e.readProperty? entity).isSome || e.isComparison entity

theorem boundType_eq (entity : EntityType) (e : Expr) :
    e.boundType entity = if e.isComparison entity then .bool
      else (e.readProperty? entity).elim e.type Property.hostType := by
  cases e <;> simp [boundType, isComparison, type]

theorem isComparison_of_accesses {other : EntityType} {buffer : Expr}
    (haccess : e.Accesses other buffer name) : e.isComparison entity = false := by
  cases haccess <;> simp [isComparison, MethodRef.propertyAccessor]

theorem boundType_of_accesses {other : EntityType} {buffer : Expr}
    (haccess : e.Accesses other buffer name)
    (hproperty : entity.findProperty? name = some property) :
    e.boundType entity = property.hostType := by
  rw [boundType_eq, isComparison_of_accesses haccess, readProperty?_of_accesses haccess, hproperty]
  rfl

theorem becomesScalar_of_accesses {other : EntityType} {buffer : Expr}
    (haccess : e.Accesses other buffer name)
    (hproperty : entity.findProperty? name = some property) : e.becomesScalar entity = true := by
  have hread : e.readProperty? entity = some property := by
    rw [readProperty?_of_accesses haccess, hproperty]
  cases haccess <;> simp [becomesScalar, hread]

theorem boundType_of_becomesScalar (h : e.becomesScalar entity = false) :
    e.boundType entity = e.type := by
  have hnone : e.isComparison entity = false ∧ e.readProperty? entity = none := by
    cases e with
    | member | call => simpa [becomesScalar, and_comm] using h
    | _ => exact ⟨rfl, rfl⟩
  rw [boundType_eq, hnone.1, hnone.2]
  rfl

theorem rewrite?_isSome_iff {call : MethodCall} :
    (Equality.rewrite? call).isSome ↔ call.method.name = "Equals" ∧
      comparesTypes (call.receiver.map Expr.type) (call.args.map Expr.type) := by
  obtain ⟨receiver, method, args, type⟩ := call
  by_cases hname : method.name = "Equals"
  · rcases receiver with _ | receiver <;> rcases args with _ | ⟨first, _ | ⟨second, _ | ⟨_, _⟩⟩⟩
    case none.cons.cons.nil =>
      rw [Equality.rewrite?_of_operands hname (.inr ⟨rfl, rfl⟩)]
      simp [comparesTypes, hname]
    all_goals simp [Equality.rewrite?, Equality.operands?, comparesTypes, hname]
  · simp [Equality.rewrite?, Equality.operands?, hname]

/-! ## Binding -/

structure HasForm (entity : EntityType) (e e' : Expr) : Prop where
  type : e'.type = e.boundType entity
  isScalar : e'.isScalar = e.becomesScalar entity

end Expr

namespace Translator

variable {t : Translator} {source : MappingSource} {entity : EntityType} {query : EntityQuery}
  {select : Select} {e e' : Expr}

theorem hasForm_of_resolves
    (hcolumn : ∀ other buffer name, e.Accesses other buffer name →
      bindName select other buffer name = .ok e' →
        e'.isScalar ∧ ∃ property, entity.findProperty? name = some property ∧
          e'.type = property.hostType)
    (h : Resolves t select (HasForm entity) e e') : HasForm entity e e' := by
  cases h with
  | settled hsettled =>
      cases e with
      | member | call | binary | unary => cases hsettled
      | _ => exact ⟨rfl, rfl⟩
  | access haccess hbound =>
      obtain ⟨hscalar, property, hproperty, htype⟩ := hcolumn _ _ _ haccess hbound
      exact ⟨by rw [htype, boundType_of_accesses haccess hproperty],
        by rw [hscalar, becomesScalar_of_accesses haccess hproperty]⟩
  | @member receiver receiver' name type hreceiver haccess =>
      have hread : (Expr.member receiver name type).readProperty? entity = none :=
        readProperty?_of_not_isAccess haccess
      exact ⟨by simp [boundType, hread, Expr.type],
        by simp [becomesScalar, hread, isComparison, isScalar, asScalar?]⟩
  | equalsCall hleft hright htype | staticEqualsCall hleft hright htype =>
      have hsame := hleft.type.symm.trans (htype.trans hright.type)
      exact ⟨by simp [boundType, comparesTypes, hsame]; rfl,
        by simp [becomesScalar, isComparison, comparesTypes, hsame]; rfl⟩
  | @call receiver receiver' method args args' type hreceiver hargs haccess hrewrite =>
      have hread : (Expr.call receiver method args type).readProperty? entity = none :=
        readProperty?_of_not_isAccess haccess
      have hcompare :=
        (not_congr rewrite?_isSome_iff).mp (Option.not_isSome_iff_eq_none.mpr hrewrite)
      rw [map_eq_map_of_rel hreceiver fun _ _ hd => hd.type,
        map_eq_map_of_forall₂ hargs fun _ _ hd => hd.type] at hcompare
      have hnone : (Expr.call receiver method args type).isComparison entity = false := by
        simpa [isComparison] using hcompare
      refine ⟨?_, ?_⟩
      · rw [boundType_eq, hnone, hread]
        rfl
      · simp [becomesScalar, hread, hnone, isScalar, asScalar?]
  | binary => exact ⟨rfl, rfl⟩
  | cast hoperand hscalar htype hmapping =>
      refine ⟨rfl, ?_⟩
      simp [becomesScalar, ← hoperand.isScalar, hscalar, htype]
      rfl
  | @unary op operand operand' type hoperand hcast =>
      refine ⟨rfl, ?_⟩
      have hnone : (Expr.unary op operand' type).isScalar = false := rfl
      simpa [becomesScalar, ← hoperand.isScalar, hnone] using hcast

/-- Whatever an expression over the row of a query is bound to has the form read off it. -/
theorem hasForm_visit (hrules : t.rules = .relational)
    (hquery : EntityQuery.ofEntity entity source = .ok query)
    (hselect : select.mapping = query.select.mapping) (hrow : e.OnlyRow query.row)
    (h : t.visit select e = .ok e') : HasForm entity e e' := by
  refine visit_induction hrules (motive := HasForm entity) ?_ hrow h
  intro e e' hrow hstep
  refine hasForm_of_resolves ?_ hstep
  intro other buffer name haccess hbound
  obtain ⟨-, property, mapping, hproperty, -, rfl⟩ :=
    EntityQuery.column_of_accesses hquery hselect hrow haccess hbound
  exact ⟨rfl, property, hproperty, rfl⟩

end Translator

end QueryBinding
