import QueryBinding.Expr.Build
import QueryBinding.Proofs.Columns

/-!
# Rows and the selects that they are read against

Every query reads its row from the root position, so nothing keeps the row of one query
out of an expression over another one.  A property of such a row is looked up twice: in
the entity of the row, and then by its name alone in the entity that the select projects
at the row's position.  The two can declare different properties under one name.
-/

namespace QueryBinding

/-! ## Columns of properties -/

namespace EntityProjection

variable {projection : EntityProjection} {property : Property} {column : Scalar} {name : String}

def Maps (projection : EntityProjection) (property : Property) (column : Scalar) : Prop :=
  ∃ source mapping, projection.BuiltWith source ∧ property.typeMapping source = .ok mapping ∧
    column = .value (.column (property.columnIn projection.tableAlias)) (some mapping)

theorem find?_columns_iff_maps {source : MappingSource} (h : projection.BuiltWith source) :
    projection.columns.find? name = some column ↔
      ∃ property, projection.entity.findProperty? name = some property ∧
        projection.Maps property column := by
  constructor
  · intro hcolumn
    obtain ⟨property, mapping, hproperty, hmapping, rfl⟩ := (h.find?_columns name column).mp hcolumn
    exact ⟨property, hproperty, source, mapping, h, hmapping, rfl⟩
  · rintro ⟨property, hproperty, other, mapping, hother, hmapping, rfl⟩
    exact (hother.find?_columns name _).mpr ⟨property, mapping, hproperty, hmapping, rfl⟩

theorem BuiltWith.exists_maps {source : MappingSource} (h : projection.BuiltWith source)
    (hproperty : projection.entity.findProperty? name = some property) :
    ∃ column, projection.Maps property column ∧ projection.columns.find? name = some column := by
  obtain ⟨mapping, hmapping, hcolumn⟩ := h.exists_column hproperty
  exact ⟨_, ⟨source, mapping, h, hmapping, rfl⟩, hcolumn⟩

theorem BuiltWith.find?_columns_eq_none_iff {source : MappingSource}
    (h : projection.BuiltWith source) :
    projection.columns.find? name = none ↔ projection.entity.findProperty? name = none := by
  simp only [Option.eq_none_iff_forall_ne_some]
  constructor
  · intro hnone property hproperty
    obtain ⟨column, -, hcolumn⟩ := h.exists_maps hproperty
    exact hnone column hcolumn
  · intro hnone column hcolumn
    obtain ⟨property, hproperty, -⟩ := (find?_columns_iff_maps h).mp hcolumn
    exact hnone property hproperty

end EntityProjection

/-! ## The two declarations of a name -/

namespace Select

variable {select : Select} {entity : EntityType} {path : ProjectionPath} {name : String}
  {property own declared : Property} {projection : EntityProjection} {column : Scalar}
  {fault : Fault}

/--
What `name` means for the rows of `entity` at `path`: it is `own` in their entity, and
`declared` in the entity that the select projects there.
-/
structure Declares (select : Select) (entity : EntityType) (path : ProjectionPath) (name : String)
    (projection : EntityProjection) (own declared : Property) : Prop where
  own : entity.findProperty? name = some own
  item : select.item? path = some (.entity projection)
  declared : projection.entity.findProperty? name = some declared

def OwnColumn (select : Select) (entity : EntityType) (path : ProjectionPath) (name : String)
    (column : Scalar) : Prop :=
  ∃ projection property,
    select.Declares entity path name projection property property ∧ projection.Maps property column

/-- Why no column stands for property `name` of the rows of `entity` at `path`. -/
inductive AccessFault (select : Select) (entity : EntityType) (path : ProjectionPath)
    (name : String) : Fault → Prop
  | undeclared (h : entity.findProperty? name = none) :
      AccessFault select entity path name (.undefinedProperty entity.name name)
  | unknownMember {own : Property} (hown : entity.findProperty? name = some own)
      (hitem : select.item? path = none) :
      AccessFault select entity path name (.unknownMember path)
  | scalar {own : Property} {s : Scalar} (hown : entity.findProperty? name = some own)
      (hitem : select.item? path = some (.scalar s)) :
      AccessFault select entity path name (.notEntityProjection path)
  | missing {own : Property} {projection : EntityProjection}
      (hown : entity.findProperty? name = some own)
      (hitem : select.item? path = some (.entity projection))
      (hmissing : projection.entity.findProperty? name = none) :
      AccessFault select entity path name (.undefinedProperty projection.entity.name name)

theorem Declares.eq_of_own {property : Property} {other : EntityProjection}
    (h : select.Declares entity path name projection own declared)
    (hproperty : select.Declares entity path name other property property) : declared = own := by
  obtain rfl : own = property := Option.some.inj (h.own.symm.trans hproperty.own)
  obtain rfl : projection = other := by
    simpa using h.item.symm.trans hproperty.item
  exact Option.some.inj (h.declared.symm.trans hproperty.declared)

theorem bindProperty_projected_eq_ok_iff (hbuilt : select.Built) {type : HostType} :
    select.bindProperty (.projected path type) property = .ok column ↔
      ∃ projection declared, select.item? path = some (.entity projection) ∧
        projection.entity.findProperty? property.name = some declared ∧
        projection.Maps declared column := by
  rw [bindProperty_eq_ok_iff]
  constructor
  · rintro ⟨_, _, projection, ⟨⟩, hitem, hcolumn⟩
    obtain ⟨source, hsource⟩ := hbuilt path projection hitem
    obtain ⟨declared, hdeclared, hmaps⟩ :=
      (EntityProjection.find?_columns_iff_maps hsource).mp hcolumn
    exact ⟨projection, declared, hitem, hdeclared, hmaps⟩
  · rintro ⟨projection, declared, hitem, hdeclared, hmaps⟩
    obtain ⟨source, hsource⟩ := hbuilt path projection hitem
    have hcolumn :=
      (EntityProjection.find?_columns_iff_maps hsource).mpr ⟨declared, hdeclared, hmaps⟩
    exact ⟨path, type, projection, rfl, hitem, hcolumn⟩

theorem bindProperty_projected_eq_error_iff (hbuilt : select.Built) {type : HostType}
    (hown : entity.findProperty? name = some own) :
    select.bindProperty (.projected path type) own = .error fault ↔
      select.AccessFault entity path name fault := by
  have hname : own.name = name := by simpa using List.find?_some hown
  constructor
  · intro h
    cases hitem : select.item? path with
    | none =>
        simp only [bindProperty, hitem, Except.error.injEq] at h
        exact h ▸ .unknownMember hown hitem
    | some item =>
        cases item with
        | scalar s =>
            simp only [bindProperty, hitem, Except.error.injEq] at h
            exact h ▸ .scalar hown hitem
        | entity projection =>
            obtain ⟨source, hsource⟩ := hbuilt path projection hitem
            cases hcolumn : projection.columns.find? name with
            | some column =>
                simp [bindProperty, hitem, EntityProjection.column, hname, hcolumn] at h
            | none =>
                simp only [bindProperty, hitem, EntityProjection.column, hname, hcolumn,
                  Except.error.injEq] at h
                exact h ▸ .missing hown hitem (hsource.find?_columns_eq_none_iff.mp hcolumn)
  · intro h
    cases h with
    | undeclared hnone =>
        rw [hnone] at hown
        cases hown
    | unknownMember _ hitem => simp [bindProperty, hitem]
    | scalar _ hitem => simp [bindProperty, hitem]
    | missing _ hitem hmissing =>
        obtain ⟨source, hsource⟩ := hbuilt path _ hitem
        have hcolumn := hsource.find?_columns_eq_none_iff.mpr hmissing
        simp [bindProperty, hitem, EntityProjection.column, hname, hcolumn]

end Select

namespace Translator

open Select

variable {t : Translator} {select : Select} {entity : EntityType} {path : ProjectionPath}
  {name : String} {bufferType type : HostType} {condition : Bool} {s : Scalar} {fault : Fault}

theorem translate_get_row_eq (t : Translator) (select : Select) (entity : EntityType)
    (buffer : Expr) (name : String) (type : HostType) (condition : Bool) :
    t.translate select ((Expr.row entity buffer).get name type) condition =
      match entity.findProperty? name with
      | some own => (select.bindProperty buffer own).map (t.flag condition)
      | none => .error (.undefinedProperty entity.name name) := by
  have hvisit : t.visit select ((Expr.row entity buffer).get name type) =
      bindName select entity buffer name := rfl
  rw [translate, hvisit, bindName]
  cases entity.findProperty? name with
  | none => rfl
  | some own =>
      dsimp only
      cases select.bindProperty buffer own <;> rfl

theorem translate_get_row_eq_ok_iff (hbuilt : select.Built) :
    t.translate select ((Expr.row entity (.projected path bufferType)).get name type) condition =
        .ok s ↔
      ∃ projection own declared column,
        select.Declares entity path name projection own declared ∧
          projection.Maps declared column ∧ s = t.flag condition column := by
  rw [translate_get_row_eq]
  cases hown : entity.findProperty? name with
  | none =>
      simp only [reduceCtorEq, false_iff]
      rintro ⟨projection, own, declared, column, hdeclares, -⟩
      rw [hdeclares.own] at hown
      cases hown
  | some own =>
      have hname : own.name = name := by simpa using List.find?_some hown
      simp only [map_eq_ok_iff, bindProperty_projected_eq_ok_iff hbuilt, hname]
      constructor
      · rintro ⟨column, ⟨projection, declared, hitem, hdeclared, hmaps⟩, rfl⟩
        exact ⟨projection, own, declared, column, ⟨hown, hitem, hdeclared⟩, hmaps, rfl⟩
      · rintro ⟨projection, own', declared, column, ⟨-, hitem, hdeclared⟩, hmaps, rfl⟩
        exact ⟨column, ⟨projection, declared, hitem, hdeclared, hmaps⟩, rfl⟩

theorem bindName_eq_error_iff (hbuilt : select.Built) :
    bindName select entity (.projected path bufferType) name = .error fault ↔
      select.AccessFault entity path name fault := by
  unfold bindName
  cases hown : entity.findProperty? name with
  | none =>
      simp only [Except.error.injEq]
      constructor
      · rintro rfl
        exact .undeclared hown
      · intro h
        cases h with
        | undeclared => rfl
        | unknownMember h | scalar h | missing h =>
            rw [hown] at h
            cases h
  | some own => exact map_eq_error_iff.trans (bindProperty_projected_eq_error_iff hbuilt hown)

theorem translate_get_row_eq_error_iff (hbuilt : select.Built) :
    t.translate select ((Expr.row entity (.projected path bufferType)).get name type) condition =
        .error fault ↔
      select.AccessFault entity path name fault := by
  have hname : bindName select entity (.projected path bufferType) name = .error fault ↔
      select.AccessFault entity path name fault := bindName_eq_error_iff hbuilt
  rw [translate_get_row_eq, ← hname, bindName]
  cases entity.findProperty? name with
  | none => simp
  | some own => exact map_eq_error_iff.trans map_eq_error_iff.symm

/--
Reading a property of a row succeeds as soon as both entities have a property of that
name, and yields the column of the one that the select projects.  So it keeps to the
row's own property exactly where the two are declared alike.
-/
theorem translate_get_row (hbuilt : select.Built) (t : Translator) (entity : EntityType)
    (path : ProjectionPath) (bufferType : HostType) (name : String) (type : HostType)
    (condition : Bool) :
    let access := (Expr.row entity (.projected path bufferType)).get name type
    (∀ s, t.translate select access condition = .ok s ↔
      ∃ projection own declared column,
        select.Declares entity path name projection own declared ∧
          projection.Maps declared column ∧ s = t.flag condition column) ∧
    (∀ fault, t.translate select access condition = .error fault ↔
      select.AccessFault entity path name fault) ∧
    ((∀ s, t.translate select access condition = .ok s →
        ∃ column, select.OwnColumn entity path name column ∧ s = t.flag condition column) ↔
      ∀ projection own declared, select.Declares entity path name projection own declared →
        declared = own) := by
  intro access
  have hok : ∀ s, t.translate select access condition = .ok s ↔ _ :=
    fun s => translate_get_row_eq_ok_iff hbuilt
  refine ⟨hok, fun fault => translate_get_row_eq_error_iff hbuilt, ?_⟩
  constructor
  · intro hkept projection own declared hdeclares
    obtain ⟨source, hsource⟩ := hbuilt path projection hdeclares.item
    obtain ⟨column, hmaps, -⟩ := hsource.exists_maps hdeclares.declared
    have hread := (hok _).mpr ⟨projection, own, declared, column, hdeclares, hmaps, rfl⟩
    obtain ⟨-, ⟨other, property, hproperty, -⟩, -⟩ := hkept _ hread
    exact hdeclares.eq_of_own hproperty
  · intro halike s hread
    obtain ⟨projection, own, declared, column, hdeclares, hmaps, rfl⟩ := (hok s).mp hread
    obtain rfl := halike projection own declared hdeclares
    exact ⟨column, ⟨projection, declared, hdeclares, hmaps⟩, rfl⟩

end Translator

/-! ## A row of another query -/

namespace Visitors

def entity : EntityType :=
  ⟨"Visitor", "Visitors", none, [.plain "Name" .string, .plain "Age" .int32]⟩

def row : Expr :=
  EntityQuery.rowOf entity

end Visitors

namespace Translator

open Select

theorem translate_get_row_visitor_age :
    let age : Scalar := .value (.column ⟨"Age", "c", .int32, false⟩) (some ⟨"integer", .int32⟩)
    Customers.query.select.Built ∧
      Customers.translator.translate Customers.query.select (Visitors.row.get "Age" .int32) false =
        .ok age ∧
      Customers.query.select.OwnColumn Visitors.entity .root "Age" age := by
  intro age
  have hbuilt := Customers.builtWith_query.built
  have hread := translate_get_row hbuilt Customers.translator Visitors.entity .root .object "Age"
    .int32 false
  have halike : ∀ projection own declared,
      Customers.query.select.Declares Visitors.entity .root "Age" projection own declared →
        declared = own := by
    rintro projection own declared ⟨⟨⟩, ⟨⟩, ⟨⟩⟩
    rfl
  obtain ⟨column, hown, hcolumn⟩ := hread.2.2.mpr halike age rfl
  have hage : column = age := hcolumn.symm
  exact ⟨hbuilt, rfl, hage ▸ hown⟩

theorem not_ownColumn_visitor_name :
    let fullName : Scalar :=
      .value (.column ⟨"full_name", "c", .string, false⟩) (some ⟨"text", .string⟩)
    Customers.query.select.Built ∧
      Customers.translator.translate Customers.query.select (Visitors.row.get "Name" .string)
        false = .ok fullName ∧
      ¬ Customers.query.select.OwnColumn Visitors.entity .root "Name" fullName := by
  intro fullName
  refine ⟨Customers.builtWith_query.built, rfl, ?_⟩
  rintro ⟨projection, property, ⟨hown, hitem, hdeclared⟩, -⟩
  cases hitem
  cases hown
  cases hdeclared

end Translator

end QueryBinding
