import QueryBinding.Proofs.Binding
import QueryBinding.Proofs.Operands
import QueryBinding.Proofs.Origins

/-!
# The grammar of bound expressions

`Formed` tells which nodes a bound expression is made of, each in view of its parts:
columns and casts are the content of scalars, the operands of binary nodes fit each
other, and no scalar is left under a conversion.  Binding a host expression makes
nothing but such nodes, since no step looks inside a bound part or changes it.
-/

namespace QueryBinding

open QueryBinding.Expr

def Select.Projects (select : Select) (column : Scalar) : Prop :=
  ∃ path projection, select.item? path = some (.entity projection) ∧
    column ∈ projection.columns.values

theorem OrderedMap.mem_values_of_find? {κ α : Type} [DecidableEq κ] {m : OrderedMap κ α}
    {key : κ} {value : α} (h : m.find? key = some value) : value ∈ m.values :=
  List.mem_map.mpr ⟨(key, value), (m.find?_eq_some_iff key value).mp h, rfl⟩

theorem Translator.projects_of_bindName {select : Select} (hselect : select.Built)
    {entity : EntityType} {buffer bound : Expr} {name : String}
    (h : bindName select entity buffer name = .ok bound) :
    ∃ column mapping, select.Projects (.value (.column column) (some mapping)) ∧
      bound = .scalar (.column column) (some mapping) false := by
  obtain ⟨path, type, projection, column, -, -, hitem, hcolumn, rfl⟩ := bindName_eq_ok_iff.mp h
  obtain ⟨source, hbuilt⟩ := hselect path projection hitem
  obtain ⟨property, mapping, -, -, rfl⟩ := (hbuilt.find?_columns name column).mp hcolumn
  exact ⟨_, mapping, ⟨path, projection, hitem, OrderedMap.mem_values_of_find? hcolumn⟩, rfl⟩

namespace Expr

def isContent : Expr → Bool
  | .column .. | .cast .. => true
  | _ => false

/-- The nodes of bound expressions, `Kept` telling which placeholders may be left. -/
inductive Formed (t : Translator) (select : Select) (Kept : Expr → Prop) : Expr → Prop
  | column (column : Column) : Formed t select Kept (.column column)
  | columnScalar {column : Column} {mapping : TypeMapping}
      (hprojects : select.Projects (.value (.column column) (some mapping))) :
      Formed t select Kept (.scalar (.column column) (some mapping) false)
  | cast {operand : Expr} {type : HostType} {mapping : TypeMapping}
      (hscalar : operand.isScalar) (htype : type ≠ .object)
      (hmapping : t.source.mapping type = .ok mapping) :
      Formed t select Kept (.cast operand type mapping.storeType)
  | castScalar {operand : Expr} {type : HostType} {mapping : TypeMapping}
      (hmapping : t.source.mapping type = .ok mapping) :
      Formed t select Kept (.scalar (.cast operand type mapping.storeType) (some mapping) false)
  | other {e : Expr} (hcontent : e.isContent = false)
      (hparts : ∀ c ∈ e.parts, c.isContent = false)
      (hbinary : ∀ op left right type, e = .binary op left right type → left.Matched right)
      (hconvert : ∀ operand type, e = .unary .convert operand type → type ≠ .object →
        operand.isScalar = false)
      (hplaceholder : e.isPlaceholder → Kept e) : Formed t select Kept e

structure Placed (t : Translator) (select : Select) (Kept : Expr → Prop) (e : Expr) : Prop where
  content : e.isContent = false
  formed : e.Everywhere (Formed t select Kept)

variable {t : Translator} {select : Select} {Kept : Expr → Prop} {e e' : Expr}

namespace Formed

variable {operand : Expr} {type : HostType} {storeType : String} {column : Column}

theorem matched {op : BinaryOp} {left right : Expr}
    (h : Formed t select Kept (.binary op left right type)) : left.Matched right := by
  cases h with
  | other _ _ hbinary => exact hbinary _ _ _ _ rfl

theorem isScalar_operand (h : Formed t select Kept (.unary .convert operand type))
    (htype : type ≠ .object) : operand.isScalar = false := by
  cases h with
  | other _ _ _ hconvert => exact hconvert _ _ rfl htype

theorem kept (h : Formed t select Kept e) (hplaceholder : e.isPlaceholder) : Kept e := by
  cases h with
  | other _ _ _ _ hkept => exact hkept hplaceholder
  | _ => cases hplaceholder

theorem of_cast (h : Formed t select Kept (.cast operand type storeType)) :
    operand.isScalar ∧ type ≠ .object ∧
      ∃ mapping, t.source.mapping type = .ok mapping ∧ mapping.storeType = storeType := by
  cases h with
  | cast hscalar htype hmapping => exact ⟨hscalar, htype, _, hmapping, rfl⟩
  | other hcontent => cases hcontent

/-- Columns and casts are parts of scalars only, which have a mapping and are no conditions. -/
theorem eq_scalar_of_mem_parts {c : Expr} (h : Formed t select Kept e) (hc : c ∈ e.parts)
    (hcontent : c.isContent) : ∃ mapping, e = .scalar c (some mapping) false := by
  cases h with
  | column => cases hc
  | columnScalar | castScalar =>
      obtain rfl := List.mem_singleton.mp hc
      exact ⟨_, rfl⟩
  | cast hscalar =>
      obtain rfl := List.mem_singleton.mp hc
      cases c with
      | scalar => cases hcontent
      | _ => cases hscalar
  | other _ hparts =>
      rw [hparts c hc] at hcontent
      contradiction

theorem mapping_of_cast {mapping : TypeMapping}
    (h : Formed t select Kept (.scalar (.cast operand type storeType) (some mapping) false)) :
    t.source.mapping type = .ok mapping := by
  cases h with
  | castScalar hmapping => exact hmapping
  | other _ hparts => cases hparts _ (List.mem_singleton.mpr rfl)

theorem projects_of_column {mapping : TypeMapping}
    (h : Formed t select Kept (.scalar (.column column) (some mapping) false)) :
    select.Projects (.value (.column column) (some mapping)) := by
  cases h with
  | columnScalar hprojects => exact hprojects
  | other _ hparts => cases hparts _ (List.mem_singleton.mpr rfl)

end Formed

namespace Placed

theorem column {column : Column} {mapping : TypeMapping}
    (hprojects : select.Projects (.value (.column column) (some mapping))) :
    Placed t select Kept (.scalar (.column column) (some mapping) false) where
  content := rfl
  formed := by
    rw [everywhere_iff, parts, List.forall_mem_singleton, everywhere_iff, parts]
    exact ⟨.columnScalar hprojects, .column column, List.forall_mem_nil _⟩

theorem cast {operand : Expr} {type : HostType} {mapping : TypeMapping}
    (h : Placed t select Kept operand) (hscalar : operand.isScalar) (htype : type ≠ .object)
    (hmapping : t.source.mapping type = .ok mapping) :
    Placed t select Kept
      (.scalar (.cast operand type mapping.storeType) (some mapping) false) where
  content := rfl
  formed := by
    rw [everywhere_iff, parts, List.forall_mem_singleton, everywhere_iff, parts,
      List.forall_mem_singleton]
    exact ⟨.castScalar hmapping, .cast hscalar htype hmapping, h.formed⟩

theorem node (hcontent : e.isContent = false) (hparts : ∀ c ∈ e.parts, Placed t select Kept c)
    (hbinary : ∀ op left right type, e = .binary op left right type → left.Matched right)
    (hconvert : ∀ operand type, e = .unary .convert operand type → type ≠ .object →
      operand.isScalar = false)
    (hplaceholder : e.isPlaceholder → Kept e) : Placed t select Kept e where
  content := hcontent
  formed := everywhere_iff.mpr
    ⟨.other hcontent (fun c hc => (hparts c hc).content) hbinary hconvert hplaceholder,
      fun c hc => (hparts c hc).formed⟩

theorem member {receiver : Option Expr} (h : ∀ r ∈ receiver, Placed t select Kept r)
    (name : String) (type : HostType) : Placed t select Kept (.member receiver name type) :=
  node rfl (by simpa [parts] using h) (by simp) (by simp) (by simp [isPlaceholder])

theorem call {receiver : Option Expr} {args : List Expr}
    (hreceiver : ∀ r ∈ receiver, Placed t select Kept r)
    (hargs : ∀ a ∈ args, Placed t select Kept a) (method : MethodRef) (type : HostType) :
    Placed t select Kept (.call receiver method args type) := by
  refine node rfl ?_ (by simp) (by simp) (by simp [isPlaceholder])
  intro c hc
  rcases List.mem_append.mp hc with hc | hc
  · exact hreceiver c (Option.mem_toList.mp hc)
  · exact hargs c hc

theorem scalar (h : Placed t select Kept e) (mapping : Option TypeMapping) (isCondition : Bool) :
    Placed t select Kept (.scalar e mapping isCondition) :=
  node rfl (by simpa [parts] using h) (by simp) (by simp) (by simp [isPlaceholder])

theorem sentAs (h : Placed t select Kept e) (hsent : e.SentAs e') : Placed t select Kept e' := by
  cases hsent with
  | same => exact h
  | value mapping => exact h.scalar mapping false

theorem binary {left left' right right' : Expr} (hleft : Placed t select Kept left)
    (hright : Placed t select Kept right) (hl : left.SentAs left') (hr : right.SentAs right')
    (hmatched : left'.Matched right') (op : BinaryOp) (type : HostType) :
    Placed t select Kept (.binary op left' right' type) := by
  refine node rfl ?_ ?_ (by simp) (by simp [isPlaceholder])
  · simpa [parts] using ⟨hleft.sentAs hl, hright.sentAs hr⟩
  · rintro _ _ _ _ ⟨⟩
    exact hmatched

theorem unary {op : UnaryOp} {operand : Expr} {type : HostType}
    (h : Placed t select Kept operand)
    (hcast : ¬ (op = .convert ∧ operand.isScalar ∧ type ≠ .object)) :
    Placed t select Kept (.unary op operand type) := by
  refine node rfl ?_ (by simp) ?_ (by simp [isPlaceholder])
  · simpa [parts] using h
  · rintro _ _ ⟨⟩ htype
    simpa [htype] using hcast

theorem condition {left right : Expr} (hleft : Placed t select Kept left)
    (hright : Placed t select Kept right) (hl : left.IsComplete) (hr : right.IsComplete) :
    Placed t select Kept (Equality.condition left right).toExpr := by
  obtain ⟨hsentLeft, hsentRight, hmatched⟩ := matched_alignOperands hl hr rfl
  exact (hleft.binary hright hsentLeft hsentRight hmatched _ _).scalar none true

end Placed

end Expr

namespace Translator

variable {t : Translator} {select : Select} {Kept : Expr → Prop} {e e' : Expr}

theorem placed_of_resolves (hselect : select.Built) (he : e.isHost)
    (hkept : e.isPlaceholder → Kept e)
    (h : Resolves t select (fun _ d' => Placed t select Kept d' ∧ d'.IsComplete) e e') :
    Placed t select Kept e' ∧ e'.IsComplete := by
  cases h with
  | settled hsettled =>
      cases e with
      | constant | parameter | row | projected =>
          refine ⟨.node rfl (by simp [parts]) (by simp) (by simp) hkept, ?_⟩
          exact isComplete_of_isScalar_eq_false rfl
      | member | call | binary | unary => cases hsettled
      | scalar | column | cast | function | fragment => cases he
  | access haccess hbound =>
      obtain ⟨column, mapping, hprojects, rfl⟩ := projects_of_bindName hselect hbound
      refine ⟨.column hprojects, ?_⟩
      rintro _ _ _ ⟨⟩
      exact ⟨.inl rfl, rfl⟩
  | member hreceiver =>
      have hparts := forall_mem_of_rel hreceiver fun _ _ _ hd => hd.1
      exact ⟨.member hparts _ _, isComplete_of_isScalar_eq_false rfl⟩
  | equalsCall hleft hright | staticEqualsCall hleft hright =>
      refine ⟨hleft.1.condition hright.1 hleft.2 hright.2, ?_⟩
      rintro _ _ _ ⟨⟩
      exact ⟨.inr rfl, rfl⟩
  | call hreceiver hargs =>
      have hparts := forall_mem_of_rel hreceiver fun _ _ _ hd => hd.1
      have hothers := forall_mem_of_forall₂ hargs fun _ _ _ hd => hd.1
      exact ⟨.call hparts hothers _ _, isComplete_of_isScalar_eq_false rfl⟩
  | binary hleft hright =>
      obtain ⟨hl, hr, hmatched⟩ := matched_reconcileOperands hleft.2 hright.2 rfl
      exact ⟨hleft.1.binary hright.1 hl hr hmatched _ _, isComplete_of_isScalar_eq_false rfl⟩
  | cast hoperand hscalar htype hmapping =>
      refine ⟨hoperand.1.cast hscalar htype hmapping, ?_⟩
      rintro _ _ _ ⟨⟩
      exact ⟨.inl rfl, rfl⟩
  | unary hoperand hcast =>
      exact ⟨hoperand.1.unary hcast, isComplete_of_isScalar_eq_false rfl⟩

theorem placed_of_visit (hrules : t.rules = .relational) (hselect : select.Built)
    (he : e.Everywhere fun d => d.isHost) (h : t.visit select e = .ok e') :
    Placed t select (· ∈ e.nodes) e' ∧ e'.IsComplete := by
  have hnodes : e.Everywhere fun d => d.isHost ∧ d ∈ e.nodes := fun d hd => ⟨he d hd, hd⟩
  refine visit_induction hrules
    (motive := fun _ e' => Placed t select (· ∈ e.nodes) e' ∧ e'.IsComplete) ?_ hnodes h
  intro d d' hd hstep
  exact placed_of_resolves hselect hd.root.1 (fun _ => hd.root.2) hstep

/--
All nodes below the root of a translation are formed, and the root is but for the
flag that is put on at the end.
-/
theorem formed_of_translate (hrules : t.rules = .relational) (hselect : select.Built)
    (he : e.Everywhere fun d => d.isHost) {condition : Bool} {s : Scalar}
    (h : t.translate select e condition = .ok s) :
    s.inner.Everywhere (Formed t select (· ∈ e.nodes)) ∧
      ∃ unflagged, t.flag condition unflagged = s ∧
        Formed t select (· ∈ e.nodes) unflagged.toExpr := by
  obtain ⟨bound, hbound, unflagged, hscalar, rfl⟩ := translate_eq_ok_iff.mp h
  obtain ⟨hplaced, -⟩ := placed_of_visit hrules hselect he hbound
  have hformed : unflagged.toExpr.Everywhere (Formed t select (· ∈ e.nodes)) := by
    rcases toScalar_eq_ok_iff.mp hscalar with rfl | ⟨-, -, mapping, -, rfl⟩
    · exact hplaced.formed
    · exact (hplaced.scalar (some mapping) false).formed
  refine ⟨?_, unflagged, rfl, hformed.root⟩
  rw [flag_inner]
  exact hformed.of_mem_parts (List.mem_singleton.mpr rfl)

theorem mem_nodes_toExpr_iff {s : Scalar} :
    e ∈ s.toExpr.nodes ↔ e = s.toExpr ∨ e ∈ s.inner.nodes := by
  rw [mem_nodes_iff, Scalar.toExpr, parts]
  simp only [List.mem_singleton, exists_eq_left]

theorem formed_of_mem_nodes (hrules : t.rules = .relational) (hselect : select.Built)
    (he : e.Everywhere fun d => d.isHost) {condition : Bool} {s : Scalar}
    (h : t.translate select e condition = .ok s) {d : Expr} (hd : d ∈ s.toExpr.nodes)
    (hscalar : d.isScalar = false) : Formed t select (· ∈ e.nodes) d := by
  obtain ⟨hformed, -⟩ := formed_of_translate hrules hselect he h
  rcases mem_nodes_toExpr_iff.mp hd with rfl | hd
  · cases hscalar
  · exact hformed d hd

theorem mem_nodes_of_isPlaceholder (hrules : t.rules = .relational) (hselect : select.Built)
    (he : e.Everywhere fun d => d.isHost) {condition : Bool} {s : Scalar}
    (h : t.translate select e condition = .ok s) {d : Expr} (hd : d ∈ s.toExpr.nodes)
    (hplaceholder : d.isPlaceholder) : d ∈ e.nodes := by
  have hscalar : d.isScalar = false := by
    cases d with
    | scalar => cases hplaceholder
    | _ => rfl
  exact (formed_of_mem_nodes hrules hselect he h hd hscalar).kept hplaceholder

end Translator

end QueryBinding
