import QueryBinding.Proofs.Rows

/-!
# Flat projections

Applying a projection lays the columns of its items one after the other.  A property is
then read by its position behind the start of its item, and before that by its name; both
lead to the same column.
-/

namespace QueryBinding

/-! ## Where the columns of an item stand -/

namespace ProjectionMapping

variable {path : ProjectionPath} {item : ProjectedItem} {mapping : ProjectionMapping}

theorem columns_startsFrom {entries : List (ProjectionPath × ProjectedItem)} (start : Nat)
    (h : OrderedMap.findEntry path entries = some item) :
    ∃ before rest,
      (entries.map Prod.snd).flatMap ProjectedItem.columns = before ++ (item.columns ++ rest) ∧
        OrderedMap.findEntry path (startsFrom start entries) = some (start + before.length) := by
  induction entries generalizing start with
  | nil => cases h
  | cons entry entries ih =>
      obtain ⟨key, other⟩ := entry
      by_cases hkey : key = path
      · simp only [OrderedMap.findEntry, if_pos hkey, Option.some.injEq] at h
        subst h
        exact ⟨[], _, rfl, by simp [startsFrom, OrderedMap.findEntry, hkey]⟩
      · simp only [OrderedMap.findEntry, if_neg hkey] at h
        obtain ⟨before, rest, hcolumns, hstart⟩ := ih (start + other.columns.length) h
        refine ⟨other.columns ++ before, rest, ?_, ?_⟩
        · rw [List.map_cons, List.flatMap_cons, hcolumns, List.append_assoc]
        · rw [startsFrom, OrderedMap.findEntry, if_neg hkey, hstart, List.length_append,
            Nat.add_assoc]

theorem getElem?_flatten (h : mapping.find? path = some item) :
    ∃ start, mapping.starts.find? path = some start ∧
      ∀ k < item.columns.length, mapping.flatten[start + k]? = item.columns[k]? := by
  obtain ⟨before, rest, hcolumns, hstart⟩ := columns_startsFrom 0 h
  rw [Nat.zero_add] at hstart
  refine ⟨before.length, hstart, fun k hk => ?_⟩
  have hflatten : mapping.flatten = before ++ (item.columns ++ rest) := hcolumns
  rw [hflatten, List.getElem?_append_right (Nat.le_add_right ..), Nat.add_sub_cancel_left,
    List.getElem?_append_left hk]

end ProjectionMapping

/-! ## Declared positions -/

theorem EntityType.findProperty?_of_mem {entity : EntityType} {property : Property}
    (hvalid : entity.validate = .ok ()) (h : property ∈ entity.properties) :
    entity.findProperty? property.name = some property := by
  obtain ⟨-, -, hnodup⟩ := EntityType.validate_eq_ok_iff.mp hvalid
  obtain ⟨before, rest, hproperties⟩ := List.append_of_mem h
  rw [hproperties, List.map_append, List.nodup_append] at hnodup
  refine List.find?_eq_some_iff_append.mpr ⟨by simp, before, rest, hproperties, ?_⟩
  intro other hother
  have hne := hnodup.2.2 _ (List.mem_map_of_mem hother) property.name (by simp)
  simpa using hne

namespace EntityProjection.BuiltWith

variable {source : MappingSource} {projection : EntityProjection} {property : Property} {k : Nat}

theorem findProperty?_of_getElem? (h : projection.BuiltWith source)
    (hk : projection.entity.properties[k]? = some property) :
    projection.entity.findProperty? property.name = some property := by
  obtain ⟨entity, table, htable⟩ := h
  obtain ⟨hvalid, columns, -, rfl⟩ := ofTable_eq_ok_iff.mp htable
  exact EntityType.findProperty?_of_mem hvalid (List.mem_of_getElem? hk)

theorem getElem?_columns (h : projection.BuiltWith source)
    (hk : projection.entity.properties[k]? = some property) :
    ∃ column, projection.columns.values[k]? = some column ∧ projection.Maps property column ∧
      projection.columns.find? property.name = some column := by
  obtain ⟨hlength, rfl⟩ := List.getElem?_eq_some_iff.mp hk
  have hcolumns := h.forall₂_columns
  have hvalues := hcolumns.length_eq ▸ hlength
  obtain ⟨mapping, hmapping, hcolumn⟩ := hcolumns.get hlength hvalues
  have hmaps : projection.Maps projection.entity.properties[k] projection.columns.values[k] :=
    ⟨source, mapping, h, hmapping, hcolumn⟩
  refine ⟨_, List.getElem?_eq_getElem hvalues, hmaps, ?_⟩
  exact (find?_columns_iff_maps h).mpr ⟨_, h.findProperty?_of_getElem? hk, hmaps⟩

end EntityProjection.BuiltWith

/-! ## Applied projections -/

namespace Select

variable {select : Select} {path : ProjectionPath} {projection : EntityProjection}
  {property : Property} {column : Scalar}

theorem reads_column (hitem : select.item? path = some (.entity projection))
    (hproperty : projection.entity.findProperty? property.name = some property)
    (hcolumn : projection.columns.find? property.name = some column) :
    (∀ type, select.bindProperty (.projected path type) property = .ok column) ∧
      ∀ (t : Translator) (bufferType type : HostType),
        t.translate select
            ((Expr.row projection.entity (.projected path bufferType)).get property.name type)
            false = .ok column := by
  have hbind : ∀ type, select.bindProperty (.projected path type) property = .ok column :=
    fun type => bindProperty_eq_ok_iff.mpr ⟨path, type, projection, rfl, hitem, hcolumn⟩
  refine ⟨hbind, fun t bufferType type => ?_⟩
  rw [Translator.translate_get_row_eq, hproperty]
  dsimp only
  rw [hbind]
  rfl

/--
Applying a projection succeeds, and the column of the `k`-th property of a projected
entity then stands `k` places behind the start of its item.  The same column is bound
to the property, before and after, and to an access to it on a row of the entity.  No
clause but the projection itself adds to the flat list, so that it is empty before.
-/
theorem applyProjection_columns (hbuilt : select.Built) (hphase : select.phase = .mapping)
    (hempty : select.projection = []) :
    ∃ applied starts, applyProjection.on select = (.ok starts, applied) ∧
      ∀ path projection k property, select.item? path = some (.entity projection) →
        projection.entity.properties[k]? = some property →
        ∃ start column, starts.find? path = some start ∧
          applied.projection[start + k]? = some column ∧
          projection.Maps property column ∧
          (∀ type, select.bindProperty (.projected path type) property = .ok column ∧
            applied.bindProperty (.projected path type) property = .ok column) ∧
          ∀ (t : Translator) (bufferType type : HostType),
            let access :=
              (Expr.row projection.entity (.projected path bufferType)).get property.name type
            t.translate select access false = .ok column ∧
              t.translate applied access false = .ok column := by
  let applied : Select :=
    { select with projection := select.mapping.flatten, phase := .applied }
  refine ⟨applied, select.mapping.starts, on_applyProjection_of_empty hphase hempty, ?_⟩
  intro path projection k property hitem hk
  obtain ⟨source, hsource⟩ := hbuilt path projection hitem
  obtain ⟨column, hvalue, hmaps, hcolumn⟩ := hsource.getElem?_columns hk
  obtain ⟨start, hstart, hflatten⟩ := ProjectionMapping.getElem?_flatten hitem
  have hwidth : k < projection.columns.values.length := (List.getElem?_eq_some_iff.mp hvalue).1
  have hproperty := hsource.findProperty?_of_getElem? hk
  have hitem' : applied.item? path = some (.entity projection) := hitem
  obtain ⟨hbind, htranslate⟩ := reads_column hitem hproperty hcolumn
  obtain ⟨hbind', htranslate'⟩ := reads_column hitem' hproperty hcolumn
  exact ⟨start, column, hstart, (hflatten k hwidth).trans hvalue, hmaps,
    fun type => ⟨hbind type, hbind' type⟩,
    fun t bufferType type => ⟨htranslate t bufferType type, htranslate' t bufferType type⟩⟩

end Select

/-! ## An entity behind a scalar -/

namespace Customers

def numbered : Select :=
  { query.select with
    mapping := .ofList
      [(⟨["Number"]⟩, .scalar (.value (.constant (.int 1) .int32) (some ⟨"integer", .int32⟩))),
        (⟨["Customer"]⟩, .entity ⟨entity, "c", columns⟩)] }

theorem built_numbered : numbered.Built := by
  intro path projection hitem
  have hcustomer : projection = ⟨entity, "c", columns⟩ := by
    simp only [Select.item?, numbered, OrderedMap.ofList, OrderedMap.insertAll, List.foldl_cons,
      List.foldl_nil, OrderedMap.find?_insert, OrderedMap.find?_empty] at hitem
    split at hitem
    · cases hitem
      rfl
    · split at hitem <;> cases hitem
  rw [hcustomer]
  exact ⟨_, builtWith_query .root _ rfl⟩

end Customers

namespace Select

theorem applyProjection_columns_numbered :
    ∃ applied starts column, applyProjection.on Customers.numbered = (.ok starts, applied) ∧
      starts.find? ⟨["Customer"]⟩ = some 1 ∧ applied.projection[3]? = some column ∧
      Customers.translator.translate applied
        ((Expr.row Customers.entity (.projected ⟨["Customer"]⟩ .object)).get "Active" .bool) false =
          .ok column := by
  obtain ⟨applied, starts, happly, hcolumns⟩ :=
    applyProjection_columns Customers.built_numbered rfl rfl
  obtain ⟨start, column, hstart, hcolumn, -, -, htranslate⟩ := hcolumns ⟨["Customer"]⟩ _ 2 _ rfl rfl
  have hone : starts.find? ⟨["Customer"]⟩ = some 1 := by
    cases happly
    rfl
  obtain rfl : start = 1 := Option.some.inj (hstart.symm.trans hone)
  exact ⟨applied, starts, column, happly, hone, hcolumn, (htranslate Customers.translator _ _).2⟩

end Select

end QueryBinding
