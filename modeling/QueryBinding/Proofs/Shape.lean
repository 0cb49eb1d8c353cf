import QueryBinding.Expr.Build
import QueryBinding.Proofs.Grammar

/-!
# The shape of translations

What holds at every depth of a translation: the operands of binary nodes fit each
other, casts stand in scalars with the mapping of their type and columns in scalars
that are columns of the select.  No later step takes a cast or a column out of its
scalar or changes the mapping that it is sent with; the final flag is all that can
differ.
-/

namespace QueryBinding

open QueryBinding.Expr

namespace Translator

variable {t : Translator} {select : Select} {e : Expr} {s : Scalar}

/-! ## Operands -/

/--
At every depth of a translation the operands of a binary node fit each other.  The
placeholders that are left, with their buffers, are those of the expression.
-/
theorem translate_matched (hrules : t.rules = .relational) (hselect : select.Built)
    (he : e.Everywhere fun d => d.isHost) (condition : Bool)
    (h : t.translate select e condition = .ok s) :
    (∀ op left right type, .binary op left right type ∈ s.toExpr.nodes → left.Matched right) ∧
    ∀ d ∈ s.toExpr.nodes, d.isPlaceholder → d ∈ e.nodes := by
  constructor
  · intro op left right type hd
    exact (formed_of_mem_nodes hrules hselect he h hd rfl).matched
  · intro d hd hplaceholder
    exact mem_nodes_of_isPlaceholder hrules hselect he h hd hplaceholder

theorem translate_matched_customers :
    let row := Customers.query.row
    let name := Expr.get row "Name" .string
    let e := operation
      (operation (literal (.string "Ann")) .equal name) .orElse
      (equalsCall (convert (Expr.get row "Age" .int32) .int64) (literal (.int 30)))
    let column := Expr.scalar (.column ⟨"full_name", "c", .string, false⟩)
      (some ⟨"text", .string⟩) false
    let ann := Expr.scalar (.constant (.string "Ann") .string) (some ⟨"text", .string⟩) false
    let age := Expr.scalar (.column ⟨"Age", "c", .int32, false⟩) (some ⟨"integer", .int32⟩) false
    let cast := Expr.scalar (.cast age .int64 "bigint") (some ⟨"bigint", .int64⟩) false
    let thirty := Expr.scalar (.constant (.int 30) .int64) (some ⟨"bigint", .int64⟩) false
    ∃ s, Customers.translator.translate Customers.query.select e true = .ok s ∧
      .binary .equal ann column .bool ∈ s.toExpr.nodes ∧
      .binary .equal cast thirty .bool ∈ s.toExpr.nodes ∧
      (∀ op left right type, .binary op left right type ∈ s.toExpr.nodes → left.Matched right) ∧
      ∀ d ∈ s.toExpr.nodes, d.isPlaceholder → d ∈ e.nodes := by
  intro row name e column ann age cast thirty
  have hhost : e.Everywhere fun d => d.isHost := by
    simp [e, name, row, Everywhere, operation, equalsCall, convert, Expr.get, literal,
      Customers.query, EntityQuery.rowOf, nodes, isHost]
  let s : Scalar := .mk
    (.binary .orElse (.binary .equal ann column .bool)
      (.scalar (.binary .equal cast thirty .bool) none true) .bool)
    (some ⟨"boolean", .bool⟩) true
  have htranslated : Customers.translator.translate Customers.query.select e true = .ok s := rfl
  have hann : .binary .equal ann column .bool ∈ s.toExpr.nodes := by
    simp [s, Scalar.toExpr, nodes]
  have hthirty : .binary .equal cast thirty .bool ∈ s.toExpr.nodes := by
    simp [s, Scalar.toExpr, nodes]
  obtain ⟨hmatched, hplaceholders⟩ := translate_matched (t := Customers.translator) rfl
    Customers.builtWith_query.built hhost true htranslated
  exact ⟨s, htranslated, hann, hthirty, hmatched, hplaceholders⟩

end Translator

/-! ## Casts and columns -/

/-- Wherever `c` is found in `e`, it is part of a node that `P` holds of. -/
def Expr.OnlyBelow (c : Expr) (P : Expr → Prop) (e : Expr) : Prop :=
  c ≠ e ∧ ∀ d ∈ e.nodes, c ∈ d.parts → P d

theorem Expr.OnlyBelow.imp {c e : Expr} {P Q : Expr → Prop} (h : c.OnlyBelow P e)
    (himp : ∀ d, P d → Q d) : c.OnlyBelow Q e :=
  ⟨h.1, fun d hd hc => himp d (h.2 d hd hc)⟩

namespace Translator

variable {t : Translator} {select : Select} {e : Expr} {s : Scalar}

/--
Columns and casts are found in scalars with a mapping, which are formed as binding
leaves them; only at the root, and where a condition is wanted, is the flag put on.
-/
theorem onlyBelow_of_isContent (hrules : t.rules = .relational) (hselect : select.Built)
    (he : e.Everywhere fun d => d.isHost) {condition : Bool}
    (h : t.translate select e condition = .ok s) (c : Expr) (hc : c.isContent) :
    c.OnlyBelow (fun d => ∃ mapping flag, d = .scalar c (some mapping) flag ∧
      Formed t select (· ∈ e.nodes) (.scalar c (some mapping) false) ∧
      (flag = true → d = s.toExpr ∧ condition = true)) s.toExpr := by
  obtain ⟨hformed, ⟨inner, sent, isCondition⟩, rfl, hroot⟩ :=
    formed_of_translate hrules hselect he h
  constructor
  · rintro rfl
    cases hc
  · intro d hd hpart
    rcases mem_nodes_toExpr_iff.mp hd with rfl | hd
    · rw [Scalar.toExpr, flag_inner] at hpart
      obtain ⟨mapping, heq⟩ := hroot.eq_scalar_of_mem_parts hpart hc
      cases heq
      refine ⟨mapping, (t.flag condition ⟨inner, some mapping, false⟩).isCondition, ?_, hroot, ?_⟩
      · rw [Scalar.toExpr, flag_inner, flag_mapping]
      · intro hflag
        rcases (flag_isCondition condition).mp hflag with hfalse | ⟨hwanted, -⟩
        · cases hfalse
        · exact ⟨rfl, hwanted⟩
    · obtain ⟨mapping, rfl⟩ := (hformed d hd).eq_scalar_of_mem_parts hpart hc
      exact ⟨mapping, false, rfl, hformed _ hd, by simp⟩

/--
In a translation no scalar is left under a conversion, other than to `object`.  Each
cast has a scalar as its operand and stands in a scalar with the mapping of its type.
-/
theorem translate_casts (hrules : t.rules = .relational) (hselect : select.Built)
    (he : e.Everywhere fun d => d.isHost) (condition : Bool)
    (h : t.translate select e condition = .ok s) :
    (∀ operand type, .unary .convert operand type ∈ s.toExpr.nodes → type ≠ .object →
      operand.isScalar = false) ∧
    (∀ operand type storeType, .cast operand type storeType ∈ s.toExpr.nodes →
      type ≠ .object ∧ operand.isScalar ∧
      ∃ mapping, t.source.mapping type = .ok mapping ∧ mapping.storeType = storeType ∧
        (Expr.cast operand type storeType).OnlyBelow
          (fun d => ∃ flag, d = .scalar (.cast operand type storeType) (some mapping) flag)
          s.toExpr) ∧
    ∀ d ∈ s.toExpr.nodes, d.isPlaceholder → d ∈ e.nodes := by
  refine ⟨?conversions, ?casts, ?placeholders⟩
  case conversions =>
    intro operand type hd htype
    exact (formed_of_mem_nodes hrules hselect he h hd rfl).isScalar_operand htype
  case casts =>
    intro operand type storeType hd
    obtain ⟨hscalar, htype, mapping, hmapping, hstoreType⟩ :=
      (formed_of_mem_nodes hrules hselect he h hd rfl).of_cast
    refine ⟨htype, hscalar, mapping, hmapping, hstoreType, ?_⟩
    refine (onlyBelow_of_isContent hrules hselect he h _ rfl).imp ?_
    rintro d ⟨other, flag, rfl, hformed, -⟩
    have hsame := Except.ok.inj (hformed.mapping_of_cast.symm.trans hmapping)
    exact ⟨flag, by rw [hsame]⟩
  case placeholders =>
    intro d hd hplaceholder
    exact mem_nodes_of_isPlaceholder hrules hselect he h hd hplaceholder

theorem translate_casts_customers :
    let age := Expr.get Customers.query.row "Age" .int32
    let e := operation (convert age .int64) .lessThan (convert (convert age .object) .int64)
    let column := Expr.column ⟨"Age", "c", .int32, false⟩
    let cast := Expr.cast (.scalar column (some ⟨"integer", .int32⟩) false) .int64 "bigint"
    ∃ s, Customers.translator.translate Customers.query.select e true = .ok s ∧
      cast ∈ s.toExpr.nodes ∧
      cast.OnlyBelow (fun d => ∃ flag, d = .scalar cast (some ⟨"bigint", .int64⟩) flag) s.toExpr ∧
      ∀ operand type, .unary .convert operand type ∈ s.toExpr.nodes → type ≠ .object →
        operand.isScalar = false := by
  intro age e column cast
  have hhost : e.Everywhere fun d => d.isHost := by
    simp [e, age, Everywhere, operation, convert, Expr.get, Customers.query, EntityQuery.rowOf,
      nodes, isHost]
  obtain ⟨hconversions, hcasts, -⟩ := translate_casts (t := Customers.translator) rfl
    Customers.builtWith_query.built hhost true rfl
  have hcast : cast ∈ (Scalar.mk (.binary .lessThan
      (.scalar cast (some ⟨"bigint", .int64⟩) false)
      (.unary .convert (.unary .convert (.scalar column (some ⟨"integer", .int32⟩) false)
        .object) .int64) .bool) (some ⟨"boolean", .bool⟩) true).toExpr.nodes := by
    simp [Scalar.toExpr, nodes, cast]
  obtain ⟨-, -, mapping, hmapping, -, honly⟩ := hcasts _ _ _ hcast
  cases hmapping
  exact ⟨_, rfl, hcast, honly, hconversions⟩

/--
Each column of a translation stands in a scalar that is a column of an entity which
the select projects, with the same mapping and also with the same flag, unless it is
the root and a condition is wanted.
-/
theorem translate_columns (hrules : t.rules = .relational) (hselect : select.Built)
    (he : e.Everywhere fun d => d.isHost) (condition : Bool)
    (h : t.translate select e condition = .ok s) :
    (∀ column, (Expr.column column).OnlyBelow
      (fun d => ∃ original flag, select.Projects original ∧ original.inner = .column column ∧
        d = .scalar (.column column) original.mapping flag ∧
        (flag ≠ original.isCondition → d = s.toExpr ∧ condition = true)) s.toExpr) ∧
    ∀ d ∈ s.toExpr.nodes, d.isPlaceholder → d ∈ e.nodes := by
  constructor
  · intro column
    refine (onlyBelow_of_isContent hrules hselect he h _ rfl).imp ?_
    rintro d ⟨mapping, flag, hd, hformed, hflag⟩
    refine ⟨.value (.column column) (some mapping), flag, hformed.projects_of_column, rfl, hd, ?_⟩
    intro hdiffers
    exact hflag (eq_true_of_ne_false hdiffers)
  · intro d hd hplaceholder
    exact mem_nodes_of_isPlaceholder hrules hselect he h hd hplaceholder

theorem translate_columns_customers :
    let e := equalsCall (Expr.get Customers.query.row "Name" .string) (literal (.string "Ann"))
    let name := Expr.column ⟨"full_name", "c", .string, false⟩
    ∃ s, Customers.translator.translate Customers.query.select e true = .ok s ∧
      name ∈ s.toExpr.nodes ∧
      ∀ column, (Expr.column column).OnlyBelow
        (fun d => ∃ original, Customers.query.select.Projects original ∧
          d = original.toExpr) s.toExpr := by
  intro e name
  have hhost : e.Everywhere fun d => d.isHost := by
    simp [e, Everywhere, equalsCall, Expr.get, literal, Customers.query, EntityQuery.rowOf,
      nodes, isHost]
  let s : Scalar := .condition (.binary .equal (.scalar name (some ⟨"text", .string⟩) false)
    (.scalar (.constant (.string "Ann") .string) (some ⟨"text", .string⟩) false) .bool)
  have htranslated : Customers.translator.translate Customers.query.select e true = .ok s := rfl
  have hname : name ∈ s.toExpr.nodes := by
    simp [s, Scalar.toExpr, Scalar.condition, nodes]
  refine ⟨s, htranslated, hname, fun column => ?_⟩
  have hcolumns := (translate_columns (t := Customers.translator) rfl
    Customers.builtWith_query.built hhost true htranslated).1 column
  refine hcolumns.imp ?_
  rintro d ⟨original, flag, hprojects, hinner, rfl, hflag⟩
  refine ⟨original, hprojects, ?_⟩
  by_cases hsame : flag = original.isCondition
  · rw [Scalar.toExpr, hinner, hsame]
  · cases (hflag hsame).1

end Translator

end QueryBinding
