import QueryBinding.EntityQuery
import QueryBinding.Proofs.Success

/-!
# Columns of projected entities

An entity is projected column by column, and a column is found again under the
name of its property.  Since `validate` refuses repeated names, looking a column
up by name and looking the property up by name lead to the same place.
-/

namespace QueryBinding

/-! ## Distinct property names -/

theorem firstRepeated?_eq_none_iff {seen names : List String} :
    EntityType.firstRepeated? seen names = none ↔
      names.Nodup ∧ ∀ name ∈ names, name ∉ seen := by
  induction names generalizing seen with
  | nil => simp [EntityType.firstRepeated?]
  | cons name rest ih =>
      by_cases hseen : name ∈ seen
      · simp [EntityType.firstRepeated?, hseen]
      · rw [EntityType.firstRepeated?, if_neg hseen, ih, List.nodup_cons]
        constructor
        · rintro ⟨hnodup, hrest⟩
          have hname : name ∉ rest := fun hmem => hrest name hmem (List.mem_cons_self ..)
          refine ⟨⟨hname, hnodup⟩, fun other hother => ?_⟩
          rcases List.mem_cons.mp hother with rfl | hmem
          · exact hseen
          · exact fun h => hrest other hmem (List.mem_cons_of_mem _ h)
        · rintro ⟨⟨hname, hnodup⟩, hall⟩
          refine ⟨hnodup, fun other hmem h => ?_⟩
          rcases List.mem_cons.mp h with rfl | h
          · exact hname hmem
          · exact hall other (List.mem_cons_of_mem _ hmem) h

theorem EntityType.validate_eq_ok_iff {entity : EntityType} :
    entity.validate = .ok () ↔
      Text.trim entity.table ≠ "" ∧ entity.properties ≠ [] ∧
        (entity.properties.map Property.name).Nodup := by
  unfold EntityType.validate
  by_cases htable : Text.trim entity.table = ""
  · simp [htable]
  by_cases hproperties : entity.properties = []
  · simp [htable, hproperties]
  cases hrepeated : EntityType.firstRepeated? [] (entity.properties.map Property.name) with
  | none =>
      have hnodup := (firstRepeated?_eq_none_iff.mp hrepeated).1
      simp [htable, hproperties, hnodup]
  | some name =>
      have hnodup : ¬ (entity.properties.map Property.name).Nodup := fun h => by
        rw [firstRepeated?_eq_none_iff.mpr ⟨h, by simp⟩] at hrepeated
        contradiction
      simp [htable, hproperties, hnodup]

/-! ## Maps built from distinct keys -/

namespace OrderedMap

variable {κ α : Type} [DecidableEq κ]

theorem putEntry_of_notMem {key : κ} {value : α} {entries : List (κ × α)}
    (h : key ∉ entries.map Prod.fst) :
    putEntry key value entries = entries ++ [(key, value)] := by
  induction entries with
  | nil => rfl
  | cons entry rest ih =>
      rw [List.map_cons, List.mem_cons, not_or] at h
      rw [putEntry, if_neg (Ne.symm h.1), ih h.2, List.cons_append]

theorem entries_insertAll {m : OrderedMap κ α} {entries : List (κ × α)}
    (h : ((m.entries ++ entries).map Prod.fst).Nodup) :
    (m.insertAll entries).entries = m.entries ++ entries := by
  induction entries generalizing m with
  | nil => simp [insertAll]
  | cons entry rest ih =>
      have hnew : entry.1 ∉ m.entries.map Prod.fst := by
        rw [List.map_append, List.nodup_append] at h
        exact fun hmem => h.2.2 _ hmem _ (by simp) rfl
      have hentries : (m.insert entry.1 entry.2).entries = m.entries ++ [entry] :=
        putEntry_of_notMem hnew
      have hrest := ih (m := m.insert entry.1 entry.2) (by simpa [hentries] using h)
      rw [hentries, List.append_assoc] at hrest
      exact hrest

theorem entries_ofList {entries : List (κ × α)} (h : (entries.map Prod.fst).Nodup) :
    (ofList entries).entries = entries :=
  entries_insertAll (m := empty) (by simpa [empty] using h)

end OrderedMap

/-! ## The column of a property -/

theorem StoreTypes.hostType_of_mapping {types : StoreTypes} {type : HostType}
    {mapping : TypeMapping} (h : types.source.mapping type = .ok mapping) :
    mapping.hostType = type := by
  simp only [MappingSource.mapping, StoreTypes.source, StoreTypes.find?] at h
  cases htable : types.table.find? type with
  | none => simp [htable] at h
  | some stored =>
      simp only [htable, Except.ok.injEq] at h
      rw [← h, types.keyed type stored htable]

def Property.columnIn (property : Property) (tableAlias : String) : Column :=
  ⟨property.columnName, tableAlias, property.hostType, property.nullable⟩

theorem propertyColumn_eq_ok_iff {tableAlias : String} {source : MappingSource}
    {property : Property} {column : Scalar} :
    EntityProjection.propertyColumn tableAlias source property = .ok column ↔
      ∃ mapping, property.typeMapping source = .ok mapping ∧
        column = .value (.column (property.columnIn tableAlias)) (some mapping) := by
  simp only [EntityProjection.propertyColumn, bind_eq_ok_iff, pure_eq_ok_iff]
  constructor
  · rintro ⟨mapping, hmapping, rfl⟩
    exact ⟨mapping, hmapping, rfl⟩
  · rintro ⟨mapping, hmapping, rfl⟩
    exact ⟨mapping, hmapping, rfl⟩

theorem hostType_of_typeMapping {types : StoreTypes} {property : Property}
    {mapping : TypeMapping} (h : property.typeMapping types.source = .ok mapping) :
    mapping.hostType = property.hostType := by
  unfold Property.typeMapping at h
  cases hown : property.storeType with
  | some storeType =>
      simp only [hown, Except.ok.injEq] at h
      rw [← h]
  | none =>
      rw [hown] at h
      exact StoreTypes.hostType_of_mapping h

namespace EntityProjection

/-- The projection holds the columns that `source` gives an entity in some table. -/
def BuiltWith (source : MappingSource) (projection : EntityProjection) : Prop :=
  ∃ entity table, ofTable entity table source = .ok projection

theorem ofTable_eq_ok_iff {entity : EntityType} {table : TableSource} {source : MappingSource}
    {projection : EntityProjection} :
    ofTable entity table source = .ok projection ↔
      entity.validate = .ok () ∧ ∃ columns,
        List.Forall₂ (fun property column => column.1 = property.name ∧
          propertyColumn table.tableAlias source property = .ok column.2)
          entity.properties columns ∧
        projection = ⟨entity, table.tableAlias, .ofList columns⟩ := by
  have hcolumn : ∀ (property : Property) (column : String × Scalar),
      (do return (property.name, ← propertyColumn table.tableAlias source property) :
        Except Fault (String × Scalar)) = .ok column ↔
      column.1 = property.name ∧
        propertyColumn table.tableAlias source property = .ok column.2 := by
    intro property column
    simp only [bind_eq_ok_iff, pure_eq_ok_iff]
    constructor
    · rintro ⟨s, hs, rfl⟩
      exact ⟨rfl, hs⟩
    · rintro ⟨hname, hs⟩
      exact ⟨column.2, hs, by rw [← hname]⟩
  simp only [ofTable, bind_eq_ok_iff, pure_eq_ok_iff, mapM_eq_ok_iff, hcolumn]
  constructor
  · rintro ⟨⟨⟩, hvalid, columns, hcolumns, rfl⟩
    exact ⟨hvalid, columns, hcolumns, rfl⟩
  · rintro ⟨hvalid, columns, hcolumns, rfl⟩
    exact ⟨(), hvalid, columns, hcolumns, rfl⟩

theorem nodup_names_of_columns {build : Property → Except Fault Scalar}
    {entity : EntityType} {columns : List (String × Scalar)} (hvalid : entity.validate = .ok ())
    (h : List.Forall₂ (fun property column => column.1 = property.name ∧
      build property = .ok column.2) entity.properties columns) :
    (columns.map Prod.fst).Nodup := by
  have hnames : columns.map Prod.fst = entity.properties.map Property.name :=
    map_eq_map_of_forall₂ h fun _ _ hcolumn => hcolumn.1
  rw [hnames]
  exact (EntityType.validate_eq_ok_iff.mp hvalid).2.2

private theorem findEntry_columns {build : Property → Except Fault Scalar}
    {properties : List Property} {columns : List (String × Scalar)}
    (h : List.Forall₂ (fun property column => column.1 = property.name ∧
      build property = .ok column.2) properties columns) (name : String) (column : Scalar) :
    OrderedMap.findEntry name columns = some column ↔
      ∃ property, (properties.find? fun property => property.name == name) = some property ∧
        build property = .ok column := by
  induction h with
  | nil => simp [OrderedMap.findEntry]
  | @cons property entry properties columns hhead _ ih =>
      obtain ⟨key, value⟩ := entry
      obtain ⟨rfl, hvalue⟩ := hhead
      by_cases hname : property.name = name
      · simp [OrderedMap.findEntry, hname, hvalue]
      · simp [OrderedMap.findEntry, hname, ih]

theorem BuiltWith.find?_columns {source : MappingSource} {projection : EntityProjection}
    (h : projection.BuiltWith source) (name : String) (column : Scalar) :
    projection.columns.find? name = some column ↔
      ∃ property mapping, projection.entity.findProperty? name = some property ∧
        property.typeMapping source = .ok mapping ∧
        column = .value (.column (property.columnIn projection.tableAlias)) (some mapping) := by
  obtain ⟨entity, table, htable⟩ := h
  obtain ⟨hvalid, columns, hcolumns, rfl⟩ := ofTable_eq_ok_iff.mp htable
  have hnodup : (columns.map Prod.fst).Nodup := nodup_names_of_columns hvalid hcolumns
  rw [OrderedMap.find?, OrderedMap.entries_ofList hnodup, findEntry_columns hcolumns]
  simp only [propertyColumn_eq_ok_iff, EntityType.findProperty?, exists_and_left]

theorem BuiltWith.forall₂_columns {source : MappingSource} {projection : EntityProjection}
    (h : projection.BuiltWith source) :
    List.Forall₂ (fun property column => ∃ mapping, property.typeMapping source = .ok mapping ∧
      column = .value (.column (property.columnIn projection.tableAlias)) (some mapping))
      projection.entity.properties projection.columns.values := by
  obtain ⟨entity, table, htable⟩ := h
  obtain ⟨hvalid, columns, hcolumns, rfl⟩ := ofTable_eq_ok_iff.mp htable
  have hnodup : (columns.map Prod.fst).Nodup := nodup_names_of_columns hvalid hcolumns
  rw [OrderedMap.values, OrderedMap.entries_ofList hnodup, List.forall₂_map_right_iff]
  refine hcolumns.imp ?_
  rintro property column ⟨-, hcolumn⟩
  exact propertyColumn_eq_ok_iff.mp hcolumn

theorem BuiltWith.exists_column {source : MappingSource} {projection : EntityProjection}
    (h : projection.BuiltWith source) {name : String} {property : Property}
    (hproperty : projection.entity.findProperty? name = some property) :
    ∃ mapping, property.typeMapping source = .ok mapping ∧
      projection.columns.find? name =
        some (.value (.column (property.columnIn projection.tableAlias)) (some mapping)) := by
  have hmem : property ∈ projection.entity.properties := List.mem_of_find?_eq_some hproperty
  obtain ⟨k, hk, hget⟩ := List.getElem_of_mem hmem
  have hlength := h.forall₂_columns.length_eq
  obtain ⟨mapping, hmapping, -⟩ := h.forall₂_columns.get hk (hlength ▸ hk)
  rw [List.get_eq_getElem, hget] at hmapping
  exact ⟨mapping, hmapping,
    (h.find?_columns name _).mpr ⟨property, mapping, hproperty, hmapping, rfl⟩⟩

end EntityProjection

/-! ## Selects over projected entities -/

namespace Select

def BuiltWith (source : MappingSource) (select : Select) : Prop :=
  ∀ path projection, select.item? path = some (.entity projection) →
    projection.BuiltWith source

/-- Every entity that a select projects has the columns that some source gives it. -/
def Built (select : Select) : Prop :=
  ∀ path projection, select.item? path = some (.entity projection) →
    ∃ source, projection.BuiltWith source

theorem BuiltWith.built {source : MappingSource} {select : Select}
    (h : select.BuiltWith source) : select.Built :=
  fun path projection hitem => ⟨source, h path projection hitem⟩

theorem item?_congr {select other : Select} (h : select.mapping = other.mapping)
    (path : ProjectionPath) : select.item? path = other.item? path := by
  rw [item?, h, item?]

theorem bindProperty_eq_ok_iff {select : Select} {placeholder : Expr} {property : Property}
    {column : Scalar} :
    select.bindProperty placeholder property = .ok column ↔
      ∃ path type projection, placeholder = .projected path type ∧
        select.item? path = some (.entity projection) ∧
        projection.columns.find? property.name = some column := by
  cases placeholder with
  | projected path type =>
      simp only [bindProperty, EntityProjection.column]
      cases hitem : select.item? path with
      | none => simp [hitem]
      | some item =>
          cases item with
          | scalar s => simp [hitem]
          | entity projection =>
              cases hcolumn : projection.columns.find? property.name <;> simp [hitem, hcolumn]
  | _ => simp [bindProperty]

end Select

namespace Translator

/--
A property of a row is bound to a column of the entity that the select projects
where the row is read from, found by the name alone.
-/
theorem bindName_eq_ok_iff {select : Select} {entity : EntityType} {buffer bound : Expr}
    {name : String} :
    bindName select entity buffer name = .ok bound ↔
      ∃ path type projection column, buffer = .projected path type ∧
        (entity.findProperty? name).isSome ∧
        select.item? path = some (.entity projection) ∧
        projection.columns.find? name = some column ∧ bound = column.toExpr := by
  unfold bindName
  cases hproperty : entity.findProperty? name with
  | none => simp
  | some property =>
      have hname : property.name = name := by
        simpa using List.find?_some hproperty
      simp only [map_eq_ok_iff, Select.bindProperty_eq_ok_iff, hname]
      constructor
      · rintro ⟨column, ⟨path, type, projection, hbuffer, hitem, hcolumn⟩, rfl⟩
        exact ⟨path, type, projection, column, hbuffer, rfl, hitem, hcolumn, rfl⟩
      · rintro ⟨path, type, projection, column, hbuffer, -, hitem, hcolumn, rfl⟩
        exact ⟨column, ⟨path, type, projection, hbuffer, hitem, hcolumn⟩, rfl⟩

theorem column_of_bindName {source : MappingSource} {select : Select}
    (hselect : select.BuiltWith source) {entity : EntityType} {buffer bound : Expr}
    {name : String} (h : bindName select entity buffer name = .ok bound) :
    ∃ path type projection property mapping, buffer = .projected path type ∧
      select.item? path = some (.entity projection) ∧
      projection.entity.findProperty? name = some property ∧
      property.typeMapping source = .ok mapping ∧
      bound = .scalar (.column (property.columnIn projection.tableAlias)) (some mapping) false := by
  obtain ⟨path, type, projection, column, hbuffer, -, hitem, hcolumn, rfl⟩ :=
    bindName_eq_ok_iff.mp h
  obtain ⟨property, mapping, hproperty, hmapping, rfl⟩ :=
    ((hselect path projection hitem).find?_columns name column).mp hcolumn
  exact ⟨path, type, projection, property, mapping, hbuffer, hitem, hproperty, hmapping, rfl⟩

end Translator

/-! ## Fresh queries -/

namespace EntityQuery

theorem item?_ofEntity {entity : EntityType} {source : MappingSource} {query : EntityQuery}
    (h : ofEntity entity source = .ok query) :
    query.row = rowOf entity ∧
      ∃ projection : EntityProjection, projection.BuiltWith source ∧
        projection.entity = entity ∧
        projection.tableAlias = Select.tableAlias entity.table ∧
        ∀ path, query.select.item? path =
          if path = .root then some (.entity projection) else none := by
  simp only [ofEntity, Select.ofEntity, bind_eq_ok_iff, pure_eq_ok_iff] at h
  obtain ⟨select, ⟨projection, htable, rfl⟩, rfl⟩ := h
  refine ⟨rfl, projection, ⟨entity, _, htable⟩, ?_⟩
  obtain ⟨-, columns, -, rfl⟩ := EntityProjection.ofTable_eq_ok_iff.mp htable
  refine ⟨rfl, rfl, fun path => ?_⟩
  simp [Select.item?, OrderedMap.ofList, OrderedMap.insertAll, eq_comm]

theorem builtWith_of_mapping {entity : EntityType} {source : MappingSource}
    {query : EntityQuery} {select : Select} (hquery : ofEntity entity source = .ok query)
    (hselect : select.mapping = query.select.mapping) : select.BuiltWith source := by
  obtain ⟨-, projection, hbuilt, -, -, hitem⟩ := item?_ofEntity hquery
  intro path other hother
  rw [Select.item?_congr hselect, hitem] at hother
  split at hother
  · cases hother
    exact hbuilt
  · cases hother

theorem column_of_bindName_row {entity : EntityType} {source : MappingSource}
    {query : EntityQuery} {select : Select} {bound : Expr} {name : String}
    (hquery : ofEntity entity source = .ok query)
    (hselect : select.mapping = query.select.mapping)
    (h : Translator.bindName select entity (.projected .root .object) name = .ok bound) :
    ∃ property mapping, entity.findProperty? name = some property ∧
      property.typeMapping source = .ok mapping ∧
      bound = .scalar (.column (property.columnIn (Select.tableAlias entity.table)))
        (some mapping) false := by
  obtain ⟨-, projection, -, hentity, halias, hitem⟩ := item?_ofEntity hquery
  obtain ⟨path, type, other, property, mapping, hbuffer, hother, hproperty, hmapping, rfl⟩ :=
    Translator.column_of_bindName (builtWith_of_mapping hquery hselect) h
  cases hbuffer
  rw [Select.item?_congr hselect, hitem, if_pos rfl] at hother
  cases hother
  rw [hentity] at hproperty
  rw [halias]
  exact ⟨property, mapping, hproperty, hmapping, rfl⟩

end EntityQuery

/-! ## An example query -/

namespace Customers

def entity : EntityType :=
  ⟨"Customer", "Customers", none,
    [⟨"Name", .string, some "full_name", none, false⟩, .plain "Age" .int32,
      ⟨"Active", .bool, none, some "smallint", false⟩]⟩

def columns : OrderedMap String Scalar :=
  .ofList
    [("Name", .value (.column ⟨"full_name", "c", .string, false⟩) (some ⟨"text", .string⟩)),
      ("Age", .value (.column ⟨"Age", "c", .int32, false⟩) (some ⟨"integer", .int32⟩)),
      ("Active", .value (.column ⟨"Active", "c", .bool, false⟩) (some ⟨"smallint", .bool⟩))]

def query : EntityQuery where
  select := {
    tables := [⟨"Customers", none, "c"⟩]
    mapping := .ofList [(.root, .entity ⟨entity, "c", columns⟩)]
    projection := []
    phase := .mapping
    predicate := none
    orderings := []
    limit := none
    offset := none }
  row := EntityQuery.rowOf entity

def translator : Translator :=
  ⟨StoreTypes.standard.source, .relational, ⟨"boolean", .bool⟩⟩

theorem query_entity :
    Compiler.query ⟨StoreTypes.standard.source, .relational⟩ entity = .ok query :=
  rfl

theorem translator_relational :
    Compiler.translator ⟨StoreTypes.standard.source, .relational⟩ = .ok translator :=
  rfl

theorem builtWith_query : query.select.BuiltWith StoreTypes.standard.source :=
  EntityQuery.builtWith_of_mapping query_entity rfl

end Customers

end QueryBinding
