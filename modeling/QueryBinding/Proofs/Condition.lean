import QueryBinding.Expr.Build
import QueryBinding.Proofs.Origins

/-!
# Conditions

A condition is flagged by an equality call or at the end of translation, where
whole mappings are compared.  Since each scalar has the mapping of its type, only
booleans are flagged, and only a column with a store type of its own escapes.
-/

namespace QueryBinding

open QueryBinding.Expr

theorem Expr.Accesses.unique {e buffer buffer' : Expr} {entity entity' : EntityType}
    {name name' : String} (h : e.Accesses entity buffer name)
    (h' : e.Accesses entity' buffer' name') :
    entity' = entity ∧ buffer' = buffer ∧ name' = name := by
  cases h <;> cases h' <;> exact ⟨rfl, rfl, rfl⟩

def Expr.ReadsOverridden (select : Select) (e : Expr) (storeType : String) : Prop :=
  ∃ entity path type name projection property own,
    e.Accesses entity (.projected path type) name ∧
    select.item? path = some (.entity projection) ∧
    projection.entity.findProperty? name = some property ∧
    property.storeType = some own ∧ own ≠ storeType

theorem typeMapping_ne_iff {types : StoreTypes} {property : Property}
    {mapping boolMapping : TypeMapping} (hbool : types.source.mapping .bool = .ok boolMapping)
    (htype : property.hostType = .bool)
    (hmapping : property.typeMapping types.source = .ok mapping) :
    mapping ≠ boolMapping ↔
      ∃ own, property.storeType = some own ∧ own ≠ boolMapping.storeType := by
  have hhostType := StoreTypes.hostType_of_mapping hbool
  unfold Property.typeMapping at hmapping
  cases hown : property.storeType with
  | none =>
      rw [hown, htype, hbool] at hmapping
      cases hmapping
      simp
  | some own =>
      rw [hown] at hmapping
      cases hmapping
      obtain ⟨storeType, hostType⟩ := boolMapping
      cases hhostType
      simp [htype]

namespace Translator

variable {t : Translator} {types : StoreTypes} {select : Select} {e e' : Expr} {s : Scalar}

theorem bindName_of_visit (hrules : t.rules = .relational) {entity : EntityType} {buffer : Expr}
    {name : String} (haccess : e.Accesses entity buffer name) (h : t.visit select e = .ok e') :
    bindName select entity buffer name = .ok e' := by
  cases resolves_of_visit hrules h with
  | access haccess' hbound =>
      obtain ⟨rfl, rfl, rfl⟩ := haccess.unique haccess'
      exact hbound
  | member _ hnot | call _ _ hnot => exact (hnot ⟨_, _, _, haccess⟩).elim
  | equalsCall | staticEqualsCall =>
      have hmethod := haccess.method_eq
      simp [MethodRef.propertyAccessor] at hmethod
  | settled hsettled => cases haccess <;> cases hsettled
  | binary | cast | unary => cases haccess

theorem translate_eq_map (t : Translator) (select : Select) (e : Expr) (condition : Bool) :
    t.translate select e condition =
      (t.visit select e >>= t.toScalar).map (t.flag condition) := by
  unfold translate
  cases t.visit select e with
  | error fault => rfl
  | ok bound =>
      cases hscalar : t.toScalar bound <;>
        simp [bind, Except.bind, pure, Except.pure, Except.map, hscalar]

/-! ## Soundness of the flag -/

theorem type_of_isCondition (ht : Compiler.translator ⟨types.source, .relational⟩ = .ok t)
    (hselect : select.BuiltWith types.source) (he : e.isScalar = false) {condition : Bool}
    (h : t.translate select e condition = .ok s) (hflagged : s.isCondition = true) :
    s.type = .bool := by
  obtain ⟨hsource, hrules, hbool⟩ := Compiler.translator_eq_ok_iff.mp ht
  obtain ⟨bound, hbound, unflagged, hscalar, rfl⟩ := translate_eq_ok_iff.mp h
  have hyields := yields_of_toScalar hrules he hbound hscalar
  rw [flag_type]
  rcases hyields.mapping_or_condition hsource hselect with
    ⟨hvalue, mapping, hmapping, hhostType⟩ | ⟨-, -, htype, -⟩
  · rcases (flag_isCondition condition).mp hflagged with hcondition | ⟨-, hboolean⟩
    · rw [hvalue] at hcondition
      contradiction
    · have hsame : mapping = t.boolMapping := Option.some.inj (hmapping.symm.trans hboolean)
      rw [← hhostType, hsame]
      exact StoreTypes.hostType_of_mapping hbool
  · exact htype

theorem isCondition_iff_equality (ht : Compiler.translator ⟨types.source, .relational⟩ = .ok t)
    (hselect : select.BuiltWith types.source) (he : e.isScalar = false)
    (h : t.translate select e false = .ok s) :
    s.isCondition = true ↔
      ∃ call, t.Rebuilds select e call ∧ (Equality.rewrite? call).isSome := by
  obtain ⟨hsource, hrules, -⟩ := Compiler.translator_eq_ok_iff.mp ht
  obtain ⟨bound, hbound, unflagged, hscalar, rfl⟩ := translate_eq_ok_iff.mp h
  have hyields := yields_of_toScalar hrules he hbound hscalar
  have hflag : (t.flag false unflagged).isCondition = true ↔ unflagged.isCondition = true := by
    simp [flag_isCondition]
  rw [hflag]
  constructor
  · intro hcondition
    rcases hyields.mapping_or_condition hsource hselect with
      ⟨hvalue, -⟩ | ⟨-, -, -, call, hcall, hrewrite⟩
    · rw [hvalue] at hcondition
      contradiction
    · exact ⟨call, hcall, by rw [hrewrite, Option.isSome_some]⟩
  · rintro ⟨call, hcall, haccepted⟩
    obtain ⟨answer, hrewrite⟩ := Option.isSome_iff_exists.mp haccepted
    rw [visit_of_rebuilds hrules hcall hrewrite] at hbound
    obtain ⟨left, right, -, -, rfl⟩ := Equality.rewrite?_eq_some_iff.mp hrewrite
    cases hbound
    cases hscalar
    rfl

/-! ## Completeness of the flag -/

theorem Yields.readsOverridden (ht : Compiler.translator ⟨types.source, .relational⟩ = .ok t)
    (hselect : select.BuiltWith types.source) (h : t.Yields select e s) (htype : s.type = .bool)
    (hvalue : s.isCondition = false) (hdiffers : s.mapping ≠ some t.boolMapping) :
    e.ReadsOverridden select t.boolMapping.storeType := by
  obtain ⟨hsource, -, hbool⟩ := Compiler.translator_eq_ok_iff.mp ht
  have hboolean : ∀ {type mapping}, t.source.mapping type = .ok mapping → type = .bool →
      mapping = t.boolMapping := by
    intro type mapping hmapping htype
    rw [hsource, htype, hbool] at hmapping
    exact (Except.ok.inj hmapping).symm
  cases h with
  | column haccess hread =>
      obtain ⟨path, type, projection, property, mapping, rfl, hitem, hproperty, hmapping,
        hcolumn⟩ := column_of_bindName hselect hread
      obtain rfl : s = .value (.column (property.columnIn projection.tableAlias)) (some mapping) :=
        Scalar.toExpr_inj.mp hcolumn
      have hother : mapping ≠ t.boolMapping := by
        intro hsame
        rw [hsame] at hdiffers
        exact hdiffers rfl
      obtain ⟨own, hown, hne⟩ := (typeMapping_ne_iff hbool htype hmapping).mp hother
      exact ⟨_, path, type, _, projection, property, own, haccess, hitem, hproperty, hown, hne⟩
  | equality hcall hrewrite =>
      obtain ⟨left, right, -, -, hcondition⟩ := Equality.rewrite?_eq_some_iff.mp hrewrite
      rw [← Scalar.toExpr_inj.mp hcondition] at hvalue
      cases hvalue
  | cast hoperand hmapping =>
      rw [hboolean hmapping htype] at hdiffers
      exact (hdiffers rfl).elim
  | wrapped hbound hscalar hplaceholder hmapping =>
      rw [hboolean hmapping htype] at hdiffers
      exact (hdiffers rfl).elim

theorem mapping_of_readsOverridden
    (ht : Compiler.translator ⟨types.source, .relational⟩ = .ok t)
    (hselect : select.BuiltWith types.source) (hbound : t.visit select e = .ok e')
    (hscalar : t.toScalar e' = .ok s) (htype : s.type = .bool)
    (hread : e.ReadsOverridden select t.boolMapping.storeType) :
    s.isCondition = false ∧ s.mapping ≠ some t.boolMapping := by
  obtain ⟨-, hrules, hbool⟩ := Compiler.translator_eq_ok_iff.mp ht
  obtain ⟨entity, path, type, name, projection, property, own, haccess, hitem, hproperty, hown,
    hne⟩ := hread
  obtain ⟨path', type', projection', property', mapping, hbuffer, hitem', hproperty', hmapping,
    rfl⟩ := column_of_bindName hselect (bindName_of_visit hrules haccess hbound)
  cases hbuffer
  cases hitem.symm.trans hitem'
  cases hproperty.symm.trans hproperty'
  cases hscalar
  refine ⟨rfl, ?_⟩
  intro hsame
  exact (typeMapping_ne_iff hbool htype hmapping).mpr ⟨own, hown, hne⟩ (Option.some.inj hsame)

/-- Where a condition is wanted, the flag misses the booleans with a store type of their own. -/
theorem isCondition_eq_false_iff (ht : Compiler.translator ⟨types.source, .relational⟩ = .ok t)
    (hselect : select.BuiltWith types.source) (he : e.isScalar = false)
    (h : t.translate select e true = .ok s) (htype : s.type = .bool) :
    s.isCondition = false ↔ e.ReadsOverridden select t.boolMapping.storeType := by
  obtain ⟨-, hrules, -⟩ := Compiler.translator_eq_ok_iff.mp ht
  obtain ⟨bound, hbound, unflagged, hscalar, rfl⟩ := translate_eq_ok_iff.mp h
  rw [flag_type] at htype
  rw [flag_isCondition_eq_false_iff]
  constructor
  · rintro ⟨hvalue, hdiffers⟩
    have hyields := yields_of_toScalar hrules he hbound hscalar
    exact hyields.readsOverridden ht hselect htype hvalue hdiffers
  · intro hread
    exact mapping_of_readsOverridden ht hselect hbound hscalar htype hread

/-! ## The flag as a whole -/

/--
A flagged scalar is boolean.  Unless a condition is wanted, the accepted equality
calls are flagged and nothing else; if one is wanted, every boolean is flagged but a
column with another store type of its own.  Both ways end in the same fault or differ
in the flag alone.
-/
theorem translate_flag (ht : Compiler.translator ⟨types.source, .relational⟩ = .ok t)
    (hselect : select.BuiltWith types.source) (he : e.isScalar = false) :
    (∀ condition s, t.translate select e condition = .ok s → s.isCondition = true →
      s.type = .bool) ∧
    (∀ s, t.translate select e false = .ok s → (s.isCondition = true ↔
      ∃ call, t.Rebuilds select e call ∧ (Equality.rewrite? call).isSome)) ∧
    (∀ s, t.translate select e true = .ok s → s.type = .bool →
      (s.isCondition = false ↔ e.ReadsOverridden select t.boolMapping.storeType)) ∧
    ((∃ fault, t.translate select e true = .error fault ∧
        t.translate select e false = .error fault) ∨
      ∃ s s', t.translate select e true = .ok s ∧ t.translate select e false = .ok s' ∧
        s.inner = s'.inner ∧ s.mapping = s'.mapping) := by
  refine ⟨?sound, ?equality, ?complete, ?same⟩
  case sound =>
    intro condition s h hflagged
    exact type_of_isCondition ht hselect he h hflagged
  case equality =>
    intro s h
    exact isCondition_iff_equality ht hselect he h
  case complete =>
    intro s h htype
    exact isCondition_eq_false_iff ht hselect he h htype
  case same =>
    rw [translate_eq_map, translate_eq_map]
    cases t.visit select e >>= t.toScalar with
    | error fault => exact .inl ⟨fault, rfl, rfl⟩
    | ok unflagged =>
        refine .inr ⟨t.flag true unflagged, t.flag false unflagged, rfl, rfl, ?_, ?_⟩
        · rw [flag_inner, flag_inner]
        · rw [flag_mapping, flag_mapping]

theorem translate_flag_active :
    let e := Expr.get Customers.query.row "Active" .bool
    ∃ s, Customers.translator.translate Customers.query.select e true = .ok s ∧
      s.type = .bool ∧ s.isCondition = false ∧
      e.ReadsOverridden Customers.query.select "boolean" := by
  refine ⟨_, rfl, rfl, rfl, ?_⟩
  have hflag := translate_flag Customers.translator_relational Customers.builtWith_query
    (e := Expr.get Customers.query.row "Active" .bool) rfl
  exact (hflag.2.2.1 _ rfl rfl).mp rfl

end Translator

end QueryBinding
