import Mathlib.Tactic.FinCases
import QueryBinding.Expr.Build
import QueryBinding.Proofs.Origins

/-!
# Types of bound expressions

Binding keeps the type of every host expression that declares the types binding
gives to it: those of the properties it reads and, for equality calls, the boolean
type.  The scalar at the end has the mapping of the same type.
-/

namespace QueryBinding

open QueryBinding.Expr

namespace Expr

/-- What a node over the row of a query has to declare for binding to keep its type. -/
structure DeclaresTypes (d row : Expr) : Prop where
  isHost : d.isHost
  placeholder : d.isPlaceholder → d = row
  access : ∀ entity buffer name property, d.Accesses entity buffer name →
    entity.findProperty? name = some property → d.type = property.hostType
  equals : ∀ receiver declaringType args type,
    d = .call receiver ⟨declaringType, "Equals"⟩ args type → type = .bool

@[simp] theorem type_reconcile (e : Expr) : e.reconcile.type = e.type := by
  cases e <;> rfl

theorem onlyRow_of_declaresTypes {e row : Expr} (he : e.Everywhere fun d => d.DeclaresTypes row) :
    e.OnlyRow row := by
  intro d hd hrow
  refine (he d hd).placeholder ?_
  cases d <;> simp_all [asRow?, isPlaceholder]

end Expr

namespace Translator

variable {t : Translator} {types : StoreTypes} {source : MappingSource} {entity : EntityType}
  {query : EntityQuery} {select : Select} {e e' row : Expr} {s : Scalar}

theorem type_of_resolves (he : e.DeclaresTypes row)
    (hcolumn : ∀ other buffer name, e.Accesses other buffer name →
      bindName select other buffer name = .ok e' → e'.type = e.type)
    (h : Resolves t select (fun d d' => d'.type = d.type) e e') : e'.type = e.type := by
  cases h with
  | settled => rfl
  | access haccess hbound => exact hcolumn _ _ _ haccess hbound
  | equalsCall | staticEqualsCall => exact (he.equals _ _ _ _ rfl).symm
  | binary => exact type_reconcile _
  | member | call | cast | unary => rfl

theorem type_visit (hrules : t.rules = .relational)
    (hquery : EntityQuery.ofEntity entity source = .ok query)
    (hselect : select.mapping = query.select.mapping)
    (he : e.Everywhere fun d => d.DeclaresTypes query.row) (h : t.visit select e = .ok e') :
    e'.type = e.type := by
  refine visit_induction hrules (motive := fun e e' => e'.type = e.type) ?_ he h
  intro e e' he hstep
  refine type_of_resolves he.root ?_ hstep
  intro other buffer name haccess hbound
  obtain ⟨haccess, property, mapping, hproperty, -, rfl⟩ :=
    EntityQuery.column_of_accesses hquery hselect (onlyRow_of_declaresTypes he) haccess hbound
  exact (he.root.access _ _ _ _ haccess hproperty).symm

theorem type_toScalar (h : t.toScalar e = .ok s) : s.type = e.type := by
  rcases toScalar_eq_ok_iff.mp h with rfl | ⟨-, -, mapping, -, rfl⟩
  · rfl
  · rfl

/--
Translation keeps types, at the root and at every node below it, and the scalar has
the mapping of its type unless it is the condition of an equality call.
-/
theorem translate_preserves_type
    (hquery : Compiler.query ⟨types.source, .relational⟩ entity = .ok query)
    (ht : Compiler.translator ⟨types.source, .relational⟩ = .ok t)
    (hselect : select.mapping = query.select.mapping)
    (he : e.Everywhere fun d => d.DeclaresTypes query.row) (condition : Bool)
    (h : t.translate select e condition = .ok s) :
    s.type = e.type ∧
    ((∃ mapping, s.mapping = some mapping ∧ mapping.hostType = e.type) ∨
      (s.mapping = none ∧ s.isCondition = true ∧
        ∃ call, t.Rebuilds select e call ∧ Equality.rewrite? call = some s.toExpr)) ∧
    ∀ d ∈ e.nodes, ∃ d', t.visit select d = .ok d' ∧ d'.type = d.type := by
  obtain ⟨hsource, hrules, -⟩ := Compiler.translator_eq_ok_iff.mp ht
  have hhost : e.Everywhere fun d => d.isHost := fun d hd => (he d hd).isHost
  have hbuilt : select.BuiltWith types.source := EntityQuery.builtWith_of_mapping hquery hselect
  obtain ⟨bound, hbound, unflagged, hscalar, rfl⟩ := translate_eq_ok_iff.mp h
  have hyields := yields_of_toScalar hrules (isScalar_of_isHost hhost.root) hbound hscalar
  have htype : unflagged.type = e.type := by
    rw [type_toScalar hscalar, type_visit hrules hquery hselect he hbound]
  refine ⟨by rw [flag_type, htype], ?_, ?_⟩
  · rcases hyields.mapping_or_condition hsource hbuilt with
      ⟨-, mapping, hmapping, hhostType⟩ | ⟨hcondition, hmapping, -, call, hcall, hrewrite⟩
    · exact .inl ⟨mapping, by rw [flag_mapping, hmapping], by rw [hhostType, htype]⟩
    · rw [flag_of_isCondition hcondition]
      exact .inr ⟨hmapping, hcondition, call, hcall, hrewrite⟩
  · intro d hd
    obtain ⟨d', hd'⟩ := visit_of_mem_nodes hhost hbound hd
    exact ⟨d', hd', type_visit hrules hquery hselect (he.of_mem_nodes hd) hd'⟩

theorem translate_preserves_type_customers :
    let e := operation
      (equalsCall (Expr.get Customers.query.row "Name" .string) (literal (.string "Ann"))) .orElse
      (negation (Expr.property (convert Customers.query.row .object) "Active" .bool))
    ∃ s, Customers.translator.translate Customers.query.select e true = .ok s ∧
      s.type = .bool ∧ s.mapping = some ⟨"boolean", .bool⟩ ∧
      ∀ d ∈ e.nodes, ∃ d', Customers.translator.visit Customers.query.select d = .ok d' ∧
        d'.type = d.type := by
  intro e
  have he : e.Everywhere fun d => d.DeclaresTypes Customers.query.row := by
    intro d hd
    fin_cases hd
    all_goals
      constructor
      case isHost => rfl
      case placeholder =>
        intro h
        first
        | rfl
        | cases h
      case access =>
        intro entity buffer name property haccess hproperty
        first
        | exact absurd haccess.method_eq (by decide)
        | cases haccess <;> cases hproperty <;> rfl
      case equals =>
        intro receiver declaringType args type h
        first
        | cases h <;> rfl
        | simp [MethodRef.propertyAccessor] at h
  refine ⟨_, rfl, rfl, rfl, ?_⟩
  exact (translate_preserves_type Customers.query_entity Customers.translator_relational rfl
    he true rfl).2.2

end Translator

end QueryBinding
