import QueryBinding.Expr.Build
import QueryBinding.Proofs.Dependence
import QueryBinding.Proofs.Rows
import QueryBinding.Rewrite.Template

/-!
# Spellings of one access

A property of a row can be read as a member of the row or through the property
accessor, which may be given the row converted to `object`.  Once the receiver is bound
to a row, all three look the property up, before any rule is asked; and as the receiver
is bound first, they also fail together.
-/

namespace QueryBinding

open QueryBinding.Expr

namespace Translator

variable {t : Translator} {select : Select} {r : Expr}

/-! ## What is done with the bound receiver -/

theorem visit_get_eq (t : Translator) (select : Select) (r : Expr) (name : String)
    (type : HostType) :
    t.visit select (r.get name type) =
      t.visit select r >>= fun bound => t.resolveMember select ⟨some bound, name, type⟩ := by
  rw [Expr.get, visit, visitOption]
  cases t.visit select r <;> rfl

theorem visit_property_eq (t : Translator) (select : Select) (r : Expr) (name : String)
    (type : HostType) :
    t.visit select (property r name type) =
      t.visit select r >>= fun bound =>
        t.resolveCall select
          ⟨none, .propertyAccessor, [bound, literal (.string name)], type⟩ := by
  rw [property, visit, visitAll]
  cases t.visit select r <;> rfl

theorem visit_convert_object (t : Translator) (select : Select) (r : Expr) :
    t.visit select (convert r .object) =
      t.visit select r >>= fun bound => .ok (convert bound .object) := by
  rw [convert, visit]
  simp only [resolveUnary, ne_eq, not_true_eq_false, and_false, if_false]
  rfl

/-! ## Equal spellings -/

theorem visit_property_eq_get
    (h : ∀ bound, t.visit select r = .ok bound → ∃ entity buffer, bound = .row entity buffer)
    (name : String) (type accessType : HostType) :
    t.visit select (property r name type) = t.visit select (r.get name accessType) := by
  rw [visit_property_eq, visit_get_eq]
  cases hbound : t.visit select r with
  | error fault => rfl
  | ok bound =>
      obtain ⟨entity, buffer, rfl⟩ := h bound hbound
      rfl

theorem visit_property_convert_eq_get
    (h : ∀ bound, t.visit select r = .ok bound → ∃ entity buffer, bound = .row entity buffer)
    (name : String) (type accessType : HostType) :
    t.visit select (property (convert r .object) name type) =
      t.visit select (r.get name accessType) := by
  rw [visit_property_eq, visit_convert_object, visit_get_eq]
  cases hbound : t.visit select r with
  | error fault => rfl
  | ok bound =>
      obtain ⟨entity, buffer, rfl⟩ := h bound hbound
      rfl

theorem translate_get_of_error {fault : Fault} (h : t.visit select r = .error fault)
    (name : String) (type : HostType) (condition : Bool) :
    t.translate select (r.get name type) condition = .error fault := by
  rw [translate, visit_get_eq, h]
  rfl

theorem translate_get_of_row {entity : EntityType} {buffer : Expr}
    (h : t.visit select r = .ok (.row entity buffer)) (name : String) (type : HostType)
    (condition : Bool) :
    t.translate select (r.get name type) condition =
      t.translate select ((Expr.row entity buffer).get name type) condition := by
  have hrow : t.visit select (.row entity buffer) = .ok (.row entity buffer) := rfl
  rw [translate, translate, visit_get_eq, visit_get_eq, h, hrow]

/--
If the receiver is bound to a row or not at all, then it makes no difference whether a
property is read as a member, through the accessor, or through the accessor from the
receiver converted to `object`.  The answer is the column of the property or the fault of
its look-up; if the receiver cannot be bound, it is the fault of the receiver.
-/
theorem translate_property_eq_get (t : Translator) (select : Select) (r : Expr) (name : String)
    (memberType callType : HostType) (condition : Bool)
    (h : ∀ bound, t.visit select r = .ok bound → ∃ entity buffer, bound = .row entity buffer) :
    let access := r.get name memberType
    let call := property r name callType
    let convertedCall := property (convert r .object) name callType
    (t.translate select call condition = t.translate select access condition ∧
      t.translate select convertedCall condition = t.translate select access condition) ∧
    (t.translateChecked select call condition = t.translateChecked select access condition ∧
      t.translateChecked select convertedCall condition =
        t.translateChecked select access condition) ∧
    (∀ fault, t.visit select r = .error fault →
      t.translate select access condition = .error fault) ∧
    ∀ entity buffer, t.visit select r = .ok (.row entity buffer) →
      t.translate select access condition =
        match entity.findProperty? name with
        | some own => (select.bindProperty buffer own).map (t.flag condition)
        | none => .error (.undefinedProperty entity.name name) := by
  intro access call convertedCall
  have hsame : SameLookups t t select select := sameLookups_of_rules t t.rules select
  have hcall : t.visit select call = t.visit select access :=
    visit_property_eq_get h name callType memberType
  have hconverted : t.visit select convertedCall = t.visit select access :=
    visit_property_convert_eq_get h name callType memberType
  refine ⟨⟨translate_congr hsame hcall condition, translate_congr hsame hconverted condition⟩,
    ⟨translateChecked_congr hsame hcall condition,
      translateChecked_congr hsame hconverted condition⟩, ?unbound, ?row⟩
  case unbound =>
    intro fault hfault
    exact translate_get_of_error hfault name memberType condition
  case row =>
    intro entity buffer hrow
    have hget := translate_get_of_row hrow name memberType condition
    exact hget.trans (translate_get_row_eq t select entity buffer name memberType condition)

theorem translate_property_eq_get_self :
    let self := CallRule.ofTemplate "self" ⟨some "Self", none, some 0, some true⟩ .receiver
    let calls := CallRule.ofTemplate "calls" ⟨none, none, none, none⟩ (.fragment "0" .int32)
    let members := MemberRule.ofTemplate "members" ⟨none, none⟩ (.fragment "0" .int32)
    let t := Customers.translator.extend [self, calls] [members]
    let select := Customers.query.select
    let r := Expr.call (some Customers.query.row) ⟨"Customer", "Self"⟩ [] .object
    let age : Scalar := .value (.column ⟨"Age", "c", .int32, false⟩) (some ⟨"integer", .int32⟩)
    t.visit select r = .ok Customers.query.row ∧
      t.translate select (r.get "Age" .int32) true = .ok age ∧
      t.translate select (property r "Age" .object) true = .ok age ∧
      t.translateChecked select (property (convert r .object) "Age" .object) true = .ok age := by
  intro self calls members t select r age
  have hrow : t.visit select r = .ok Customers.query.row := rfl
  have hbound : ∀ bound, t.visit select r = .ok bound →
      ∃ entity buffer, bound = .row entity buffer := by
    intro bound h
    rw [hrow] at h
    cases h
    exact ⟨_, _, rfl⟩
  obtain ⟨⟨hcall, -⟩, ⟨-, hconverted⟩, -, hanswer⟩ :=
    translate_property_eq_get t select r "Age" .int32 .object true hbound
  have hage : t.translate select (r.get "Age" .int32) true = .ok age := hanswer _ _ hrow
  exact ⟨hrow, hage, hcall.trans hage, hconverted.trans rfl⟩

end Translator

end QueryBinding
