import QueryBinding.Proofs.Failure
import QueryBinding.Proofs.Rows
import QueryBinding.Proofs.Validity

/-!
# Fresh selects

A select over an entity starts out reading every property from the table of the entity.
What can go wrong comes in a fixed order: what makes the entity invalid, then the first
property without a mapping.
-/

namespace QueryBinding

variable {entity : EntityType} {table : TableSource} {source : MappingSource}
  {property : Property} {projection : EntityProjection} {select : Select} {fault : Fault}

/-! ## Mapped properties -/

theorem mapping_eq_ok_iff {type : HostType} {mapping : TypeMapping} :
    source.mapping type = .ok mapping ↔ source.find? type = some mapping := by
  unfold MappingSource.mapping
  cases source.find? type <;> simp

namespace Property

inductive MapsTo (source : MappingSource) (property : Property) : TypeMapping → Prop
  | own {storeType : String} (hown : property.storeType = some storeType) :
      MapsTo source property ⟨storeType, property.hostType⟩
  | shared {mapping : TypeMapping} (hown : property.storeType = none)
      (hfind : source.find? property.hostType = some mapping) : MapsTo source property mapping

def IsMapped (source : MappingSource) (property : Property) : Prop :=
  property.storeType.isSome ∨ (source.find? property.hostType).isSome

def Unmapped (source : MappingSource) (property : Property) (fault : Fault) : Prop :=
  ¬ property.IsMapped source ∧ fault = .unmappedType property.hostType

theorem typeMapping_eq_ok_iff {mapping : TypeMapping} :
    property.typeMapping source = .ok mapping ↔ property.MapsTo source mapping := by
  unfold typeMapping
  constructor
  · intro h
    cases hown : property.storeType with
    | some storeType =>
        rw [hown] at h
        cases h
        exact .own hown
    | none =>
        rw [hown] at h
        exact .shared hown (mapping_eq_ok_iff.mp h)
  · rintro (hown | ⟨hown, hfind⟩)
    · rw [hown]
    · rw [hown]
      exact mapping_eq_ok_iff.mpr hfind

theorem typeMapping_eq_error_iff :
    property.typeMapping source = .error fault ↔ property.Unmapped source fault := by
  unfold typeMapping Unmapped IsMapped
  cases property.storeType with
  | some storeType => simp
  | none => simp [Translator.mapping_eq_error_iff]

theorem forall_not_unmapped_iff :
    (∀ fault, ¬ property.Unmapped source fault) ↔ property.IsMapped source := by
  simp [Unmapped]

end Property

/-! ## Projected entities -/

/-- Why an entity has no columns: its own flaw, or else its first property without a mapping. -/
inductive EntityType.Unmapped (source : MappingSource) (entity : EntityType) : Fault → Prop
  | invalid {flaw : SchemaFlaw} (h : entity.validate = .error (.schema flaw)) :
      Unmapped source entity (.schema flaw)
  | property {fault : Fault} (hvalid : entity.validate = .ok ())
      (h : First (Property.Unmapped source) entity.properties fault) :
      Unmapped source entity fault

namespace EntityProjection

theorem ofTable_eq_error_iff :
    ofTable entity table source = .error fault ↔ entity.Unmapped source fault := by
  rw [ofTable, bind_eq_error_iff]
  simp only [bind_eq_error_iff, mapM_eq_error_iff, propertyColumn, pure, Except.pure, reduceCtorEq,
    and_false, exists_false, or_false, Property.typeMapping_eq_error_iff]
  constructor
  · rintro (hinvalid | ⟨⟨⟩, hvalid, hfirst⟩)
    · obtain ⟨flaw, rfl, -⟩ := EntityType.validate_eq_error_iff.mp hinvalid
      exact .invalid hinvalid
    · exact .property hvalid hfirst
  · rintro (hinvalid | ⟨hvalid, hfirst⟩)
    · exact .inl hinvalid
    · exact .inr ⟨(), hvalid, hfirst⟩

theorem exists_ofTable_iff :
    (∃ projection, ofTable entity table source = .ok projection) ↔
      entity.validate = .ok () ∧ ∀ property ∈ entity.properties, property.IsMapped source := by
  rw [← forall_ne_error_iff]
  simp only [Ne, ofTable_eq_error_iff, ← Property.forall_not_unmapped_iff, ← First.forall_not_iff]
  constructor
  · intro h
    have hvalid : entity.validate = .ok () := by
      cases hvalidate : entity.validate with
      | ok => rfl
      | error fault =>
          obtain ⟨flaw, rfl, -⟩ := EntityType.validate_eq_error_iff.mp hvalidate
          exact (h _ (.invalid hvalidate)).elim
    exact ⟨hvalid, fun fault hfirst => h fault (.property hvalid hfirst)⟩
  · rintro ⟨hvalid, hmapped⟩ fault (hinvalid | ⟨-, hfirst⟩)
    · rw [hvalid] at hinvalid
      cases hinvalid
    · exact hmapped fault hfirst

/--
The columns are those of the properties, in declared order and under their names, and a
property is found where its declaration is.
-/
structure Reads (projection : EntityProjection) (entity : EntityType) (table : TableSource)
    (source : MappingSource) : Prop where
  ofEntity : projection.entity = entity
  underAlias : projection.tableAlias = table.tableAlias
  size : projection.columns.size = entity.properties.length
  columns : ∀ (i : Nat) (property : Property), entity.properties[i]? = some property →
    ∃ mapping, property.MapsTo source mapping ∧
      projection.columns.entries[i]? = some (property.name, .value (.column
        ⟨property.columnName, table.tableAlias, property.hostType, property.nullable⟩)
        (some mapping))
  undeclared : ∀ asked : Property, entity.findProperty? asked.name = none →
    projection.column asked = .error (.undefinedProperty entity.name asked.name)
  declared : ∀ asked property : Property, entity.findProperty? asked.name = some property →
    ∃ (i : Nat) (column : Scalar), entity.properties[i]? = some property ∧
      projection.columns.entries[i]? = some (property.name, column) ∧
      projection.column asked = .ok column

theorem forall₂_entries (h : ofTable entity table source = .ok projection) :
    List.Forall₂ (fun property entry => ∃ mapping, property.MapsTo source mapping ∧
      entry = (property.name,
        Scalar.value (.column (property.columnIn table.tableAlias)) (some mapping)))
      entity.properties projection.columns.entries := by
  obtain ⟨hvalid, columns, hcolumns, rfl⟩ := ofTable_eq_ok_iff.mp h
  rw [OrderedMap.entries_ofList (nodup_names_of_columns hvalid hcolumns)]
  refine hcolumns.imp ?_
  rintro property ⟨name, column⟩ ⟨rfl, hcolumn⟩
  obtain ⟨mapping, hmapping, rfl⟩ := propertyColumn_eq_ok_iff.mp hcolumn
  exact ⟨mapping, Property.typeMapping_eq_ok_iff.mp hmapping, rfl⟩

theorem reads_of_ofTable (h : ofTable entity table source = .ok projection) :
    projection.Reads entity table source := by
  have hentries := forall₂_entries h
  have hbuilt : projection.BuiltWith source := ⟨entity, table, h⟩
  have hentity : projection.entity = entity := by
    obtain ⟨-, _, -, rfl⟩ := ofTable_eq_ok_iff.mp h
    rfl
  have hcolumns : ∀ (i : Nat) (property : Property), entity.properties[i]? = some property →
      ∃ mapping, property.MapsTo source mapping ∧
        projection.columns.entries[i]? = some (property.name,
          .value (.column (property.columnIn table.tableAlias)) (some mapping)) := by
    intro i property hi
    obtain ⟨hlength, rfl⟩ := List.getElem?_eq_some_iff.mp hi
    have hlength' := hentries.length_eq ▸ hlength
    obtain ⟨mapping, hmaps, hentry⟩ := hentries.get hlength hlength'
    exact ⟨mapping, hmaps, List.getElem?_eq_some_iff.mpr ⟨hlength', hentry⟩⟩
  constructor
  case ofEntity => exact hentity
  case underAlias =>
    obtain ⟨-, _, -, rfl⟩ := ofTable_eq_ok_iff.mp h
    rfl
  case size => exact hentries.length_eq.symm
  case columns => exact hcolumns
  case undeclared =>
    intro asked hasked
    rw [← hentity, ← hbuilt.find?_columns_eq_none_iff] at hasked
    rw [column, hasked, hentity]
  case declared =>
    intro asked property hasked
    obtain ⟨i, hi, hproperty⟩ := List.getElem_of_mem (List.mem_of_find?_eq_some hasked)
    have hname : property.name = asked.name := by simpa using List.find?_some hasked
    have hi' : entity.properties[i]? = some property :=
      List.getElem?_eq_some_iff.mpr ⟨hi, hproperty⟩
    obtain ⟨mapping, -, hentry⟩ := hcolumns i property hi'
    refine ⟨i, _, hi', hentry, ?_⟩
    have hfind := (projection.columns.find?_eq_some_iff _ _).mpr (List.mem_of_getElem? hentry)
    rw [column, ← hname, hfind]

end EntityProjection

/-! ## Selects -/

namespace Select

theorem ofEntity_eq_ok_iff :
    ofEntity entity source = .ok select ↔
      ∃ projection, EntityProjection.ofTable entity
          ⟨entity.table, entity.schema, tableAlias entity.table⟩ source = .ok projection ∧
        select = {
          tables := [⟨entity.table, entity.schema, tableAlias entity.table⟩]
          mapping := .ofList [(.root, .entity projection)]
          projection := []
          phase := .mapping
          predicate := none
          orderings := []
          limit := none
          offset := none } := by
  rw [ofEntity, bind_eq_ok_iff]
  refine exists_congr fun projection => and_congr_right fun _ => ?_
  rw [pure_eq_ok_iff, eq_comm]

theorem ofEntity_eq_error_iff :
    ofEntity entity source = .error fault ↔ entity.Unmapped source fault := by
  rw [← EntityProjection.ofTable_eq_error_iff]
  simp only [ofEntity, bind_eq_error_iff, pure, Except.pure, reduceCtorEq, and_false,
    exists_false, or_false]
  rfl

/--
An entity has columns in a table, and a select over its own table, exactly when it is valid
and each property has a mapping; otherwise the flaw of the entity is reported, or its first
property without a mapping.  The select reads the columns of the entity at the root, under
the first letter of the table's lower-case name, and has no clauses.
-/
theorem ofEntity_fresh (entity : EntityType) (source : MappingSource) :
    (∀ table : TableSource,
      ((∃ projection, EntityProjection.ofTable entity table source = .ok projection) ↔
        entity.validate = .ok () ∧ ∀ property ∈ entity.properties, property.IsMapped source) ∧
      (∀ fault, EntityProjection.ofTable entity table source = .error fault ↔
        entity.Unmapped source fault) ∧
      ∀ projection, EntityProjection.ofTable entity table source = .ok projection →
        projection.Reads entity table source) ∧
    ((∃ select, ofEntity entity source = .ok select) ↔
      entity.validate = .ok () ∧ ∀ property ∈ entity.properties, property.IsMapped source) ∧
    (∀ fault, ofEntity entity source = .error fault ↔ entity.Unmapped source fault) ∧
    ∀ select, ofEntity entity source = .ok select →
      ∃ (table : TableSource) (projection : EntityProjection) (initial : Char) (rest : List Char),
        entity.table.toList = initial :: rest ∧
        table = ⟨entity.table, entity.schema, .ofList [Text.lowerHead initial]⟩ ∧
        (initial.toNat < 128 → table.tableAlias = .ofList [initial.toLower]) ∧
        projection.Reads entity table source ∧
        select = {
          tables := [table]
          mapping := .ofList [(.root, .entity projection)]
          projection := []
          phase := .mapping
          predicate := none
          orderings := []
          limit := none
          offset := none } := by
  refine ⟨fun table => ⟨?_, ?_, ?_⟩, ?_, ?_, ?select⟩
  · exact EntityProjection.exists_ofTable_iff
  · exact fun fault => EntityProjection.ofTable_eq_error_iff
  · exact fun projection => EntityProjection.reads_of_ofTable
  · rw [← EntityProjection.exists_ofTable_iff]
    constructor
    · rintro ⟨select, hselect⟩
      obtain ⟨projection, hprojection, -⟩ := ofEntity_eq_ok_iff.mp hselect
      exact ⟨projection, hprojection⟩
    · rintro ⟨projection, hprojection⟩
      exact ⟨_, ofEntity_eq_ok_iff.mpr ⟨projection, hprojection, rfl⟩⟩
  · exact fun fault => ofEntity_eq_error_iff
  case select =>
    intro select hselect
    obtain ⟨projection, hprojection, rfl⟩ := ofEntity_eq_ok_iff.mp hselect
    obtain ⟨hvalid, -⟩ := EntityProjection.exists_ofTable_iff.mp ⟨projection, hprojection⟩
    obtain ⟨c, hc, -⟩ := (EntityType.validate_eq_ok_iff_isValid.mp hvalid).table
    obtain ⟨initial, rest, htable⟩ := List.exists_cons_of_ne_nil (List.ne_nil_of_mem hc)
    have halias : tableAlias entity.table = .ofList [Text.lowerHead initial] := by
      rw [tableAlias, Text.lowerInitial, htable]
      rfl
    rw [halias] at hprojection ⊢
    refine ⟨_, projection, initial, rest, htable, rfl, fun hascii => ?_,
      EntityProjection.reads_of_ofTable hprojection, rfl⟩
    rw [Text.lowerHead_of_ascii hascii]

theorem ofEntity_fresh_customers :
    ofEntity Customers.entity StoreTypes.standard.source = .ok Customers.query.select ∧
      (∃ projection, Customers.query.select.mapping = .ofList [(.root, .entity projection)] ∧
        projection.Reads Customers.entity ⟨"Customers", none, "c"⟩ StoreTypes.standard.source) ∧
      ofEntity ⟨"Place", "Places", none,
          [.plain "Id" .int32, .plain "At" (.named "Point"), .plain "Tag" .object]⟩
          StoreTypes.standard.source = .error (.unmappedType (.named "Point")) := by
  have hcustomers : ofEntity Customers.entity StoreTypes.standard.source =
      .ok Customers.query.select := rfl
  refine ⟨hcustomers, ?_, ?_⟩
  · obtain ⟨-, -, -, hfresh⟩ := ofEntity_fresh Customers.entity StoreTypes.standard.source
    obtain ⟨_, projection, initial, rest, hname, rfl, -, hreads, hselect⟩ :=
      hfresh _ hcustomers
    obtain ⟨rfl, -⟩ : 'C' = initial ∧ _ = rest := List.cons.inj hname
    exact ⟨projection, congrArg Select.mapping hselect, hreads⟩
  · refine ((ofEntity_fresh _ _).2.2.1 _).mpr (.property rfl (.tail ?_ (.head ?_)))
    · exact Property.forall_not_unmapped_iff.mpr (.inr rfl)
    · refine ⟨?_, rfl⟩
      rintro (hown | hshared)
      · cases hown
      · cases hshared

end Select

end QueryBinding
