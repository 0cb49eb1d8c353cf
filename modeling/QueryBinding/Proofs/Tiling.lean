import Mathlib.Algebra.Order.BigOperators.Group.List
import Mathlib.Algebra.Order.Ring.Nat
import QueryBinding.Proofs.Flattening

/-!
# Tilings

The items of a projection mapping tile the flat projection: each starts where the one
before it ends, the first at the front and the last up to the end.  As no entity is
projected without properties, no two items start at the same column, and every column
belongs to exactly one item.
-/

namespace QueryBinding

/-! ## The width of an item -/

namespace ProjectedItem

variable {item : ProjectedItem} {columns : List Scalar}

def width : ProjectedItem → Nat
  | .entity projection => projection.entity.properties.length
  | .scalar _ => 1

/-- The columns of an entity are those of its properties, in declared order. -/
inductive Yields : ProjectedItem → List Scalar → Prop
  | entity {projection : EntityProjection} {columns : List Scalar}
      (h : List.Forall₂ projection.Maps projection.entity.properties columns) :
      Yields (.entity projection) columns
  | scalar (s : Scalar) : Yields (.scalar s) [s]

def Built (item : ProjectedItem) : Prop :=
  ∀ projection, item = .entity projection → ∃ source, projection.BuiltWith source

theorem Yields.length_eq (h : item.Yields columns) : columns.length = item.width := by
  cases h with
  | entity h => exact h.length_eq.symm
  | scalar => rfl

theorem Built.yields (h : item.Built) : item.Yields item.columns := by
  cases item with
  | scalar s => exact .scalar s
  | entity projection =>
      obtain ⟨source, hsource⟩ := h projection rfl
      refine .entity (hsource.forall₂_columns.imp ?_)
      rintro property column ⟨mapping, hmapping, hcolumn⟩
      exact ⟨source, mapping, hsource, hmapping, hcolumn⟩

theorem Built.length_columns (h : item.Built) : item.columns.length = item.width :=
  h.yields.length_eq

theorem Built.width_pos (h : item.Built) : 0 < item.width := by
  cases item with
  | scalar => simp [width]
  | entity projection =>
      obtain ⟨source, entity, table, htable⟩ := h projection rfl
      obtain ⟨hvalid, columns, -, rfl⟩ := EntityProjection.ofTable_eq_ok_iff.mp htable
      have hproperties := (EntityType.validate_eq_ok_iff.mp hvalid).2.1
      exact List.length_pos_iff.mpr hproperties

end ProjectedItem

/-! ## The start of an item -/

theorem exists_take_sum_le {widths : List Nat} {i : Nat} (h : i < widths.sum) :
    ∃ k width, widths[k]? = some width ∧ (widths.take k).sum ≤ i ∧
      i < (widths.take k).sum + width := by
  induction widths generalizing i with
  | nil => simp at h
  | cons width rest ih =>
      by_cases hi : i < width
      · exact ⟨0, width, by simp, by simp, by simpa using hi⟩
      · rw [List.sum_cons] at h
        obtain ⟨k, other, hk, hle, hlt⟩ := ih (i := i - width) (by omega)
        refine ⟨k + 1, other, by simpa using hk, ?_, ?_⟩ <;>
          rw [List.take_succ_cons, List.sum_cons] <;> omega

namespace ProjectionMapping

variable {mapping : ProjectionMapping} {path : ProjectionPath} {item : ProjectedItem}
  {i k l : Nat}

def widths (mapping : ProjectionMapping) : List Nat :=
  mapping.values.map ProjectedItem.width

def offset (mapping : ProjectionMapping) (k : Nat) : Nat :=
  (mapping.widths.take k).sum

theorem offset_mono (h : k ≤ l) : mapping.offset k ≤ mapping.offset l :=
  List.monotone_sum_take mapping.widths h

theorem getElem?_values (h : mapping.entries[k]? = some (path, item)) :
    mapping.values[k]? = some item := by
  simp [OrderedMap.values, h]

theorem getElem?_widths (h : mapping.values[k]? = some item) :
    mapping.widths[k]? = some item.width := by
  simp [widths, h]

theorem offset_succ (h : mapping.values[k]? = some item) :
    mapping.offset (k + 1) = mapping.offset k + item.width := by
  simp [offset, List.take_add_one, getElem?_widths h]

theorem exists_offset_le (hi : i < mapping.widths.sum) :
    ∃ k path item, mapping.entries[k]? = some (path, item) ∧ mapping.offset k ≤ i ∧
      i < mapping.offset k + item.width := by
  obtain ⟨k, width, hwidth, hle, hlt⟩ := exists_take_sum_le hi
  obtain ⟨⟨path, item⟩, hk, rfl⟩ : ∃ entry, mapping.entries[k]? = some entry ∧
      entry.2.width = width := by
    simpa [widths, OrderedMap.values] using hwidth
  exact ⟨k, path, item, hk, hle, hlt⟩

theorem getElem?_startsFrom (start : Nat) (entries : List (ProjectionPath × ProjectedItem))
    (k : Nat) :
    (startsFrom start entries)[k]? = entries[k]?.map fun entry =>
      (entry.1, start + ((entries.take k).map fun entry => entry.2.columns.length).sum) := by
  induction entries generalizing start k with
  | nil => simp [startsFrom]
  | cons entry rest ih =>
      cases k with
      | zero => simp [startsFrom]
      | succ k => simp [startsFrom, ih, Nat.add_assoc]

theorem length_startsFrom (start : Nat) (entries : List (ProjectionPath × ProjectedItem)) :
    (startsFrom start entries).length = entries.length := by
  have hkeys := congrArg List.length (keys_startsFrom start entries)
  rwa [List.length_map, List.length_map] at hkeys

section Built

variable (hbuilt : ∀ item ∈ mapping.values, item.Built)
include hbuilt

theorem widths_eq :
    mapping.widths = (mapping.values.map ProjectedItem.columns).map List.length := by
  rw [List.map_map]
  exact List.map_congr_left fun item hitem => (hbuilt item hitem).length_columns.symm

theorem length_flatten : mapping.flatten.length = mapping.widths.sum := by
  rw [widths_eq hbuilt, flatten, List.flatMap_def, List.length_flatten]

theorem getElem?_starts (h : mapping.entries[k]? = some (path, item)) :
    mapping.starts.entries[k]? = some (path, mapping.offset k) := by
  have hwidths : (mapping.widths.take k) =
      (mapping.entries.take k).map fun entry => entry.2.columns.length := by
    simp [widths_eq hbuilt, OrderedMap.values, List.map_take, Function.comp_def]
  simp only [starts, getElem?_startsFrom, h, Option.map_some, offset, hwidths, Nat.zero_add]

theorem take_drop_flatten (h : mapping.values[k]? = some item) :
    (mapping.flatten.drop (mapping.offset k)).take item.width = item.columns := by
  have hlength := (hbuilt item (List.mem_of_getElem? h)).length_columns
  have hdrop : mapping.values.drop k = item :: mapping.values.drop (k + 1) :=
    (List.getElem?_eq_some_iff.mp h).elim fun hk hitem => by
      rw [List.drop_eq_getElem_cons hk, hitem]
  rw [offset, widths_eq hbuilt, flatten, List.flatMap_def, List.drop_sum_flatten, ← List.map_drop,
    hdrop, List.map_cons, List.flatten_cons, ← hlength, List.take_left]

theorem offset_lt_offset (hk : mapping.values[k]? = some item) (h : k < l) :
    mapping.offset k < mapping.offset l := by
  have hwidth := (hbuilt item (List.mem_of_getElem? hk)).width_pos
  have hsucc := offset_succ hk
  have hmono : mapping.offset (k + 1) ≤ mapping.offset l := offset_mono h
  omega

theorem find?_starts_iff {start : Nat} :
    mapping.find? path = some item ∧ mapping.starts.find? path = some start ↔
      ∃ k, mapping.entries[k]? = some (path, item) ∧ start = mapping.offset k := by
  rw [OrderedMap.find?_eq_some_iff, List.mem_iff_getElem?]
  constructor
  · rintro ⟨⟨k, hk⟩, hstart⟩
    have hoffset := List.mem_of_getElem? (getElem?_starts hbuilt hk)
    rw [← OrderedMap.find?_eq_some_iff, hstart, Option.some.injEq] at hoffset
    exact ⟨k, hk, hoffset⟩
  · rintro ⟨k, hk, rfl⟩
    refine ⟨⟨k, hk⟩, ?_⟩
    rw [OrderedMap.find?_eq_some_iff]
    exact List.mem_of_getElem? (getElem?_starts hbuilt hk)

theorem pairwise_starts : mapping.starts.values.Pairwise (· < ·) := by
  rw [List.pairwise_iff_getElem]
  intro k l hk hl hlt
  have hvalue : ∀ j (hj : j < mapping.starts.values.length),
      ∃ item, mapping.values[j]? = some item ∧ mapping.starts.values[j] = mapping.offset j := by
    intro j hj
    have hentry : j < mapping.entries.length := by
      simpa [OrderedMap.values, starts, length_startsFrom] using hj
    have hstart := getElem?_starts hbuilt (List.getElem?_eq_getElem hentry)
    refine ⟨_, getElem?_values (List.getElem?_eq_getElem hentry), ?_⟩
    simp [OrderedMap.values, (List.getElem?_eq_some_iff.mp hstart).2]
  obtain ⟨item, hitem, hstart⟩ := hvalue k hk
  obtain ⟨other, -, hother⟩ := hvalue l hl
  rw [hstart, hother]
  exact offset_lt_offset hbuilt hitem hlt

theorem existsUnique_covering (hi : i < mapping.flatten.length) :
    ∃! path, ∃ item start, mapping.find? path = some item ∧
      mapping.starts.find? path = some start ∧ start ≤ i ∧ i < start + item.width := by
  rw [length_flatten hbuilt] at hi
  obtain ⟨k, path, item, hk, hle, hlt⟩ := exists_offset_le hi
  obtain ⟨hitem, hstart⟩ := (find?_starts_iff hbuilt).mpr ⟨k, hk, rfl⟩
  refine ⟨path, ⟨item, _, hitem, hstart, hle, hlt⟩, ?_⟩
  rintro other ⟨otherItem, start, hother, hotherStart, hle', hlt'⟩
  obtain ⟨l, hl, rfl⟩ := (find?_starts_iff hbuilt).mp ⟨hother, hotherStart⟩
  have hend := offset_succ (getElem?_values hk)
  have hend' := offset_succ (getElem?_values hl)
  rcases Nat.lt_trichotomy k l with h | rfl | h
  · have hmono : mapping.offset (k + 1) ≤ mapping.offset l := offset_mono h
    omega
  · rw [hk] at hl
    cases hl
    rfl
  · have hmono : mapping.offset (l + 1) ≤ mapping.offset k := offset_mono h
    omega

end Built

end ProjectionMapping

/-! ## Applied projections -/

namespace Select

variable {select : Select}

theorem built_iff : select.Built ↔ ∀ item ∈ select.mapping.values, item.Built := by
  constructor
  · rintro h item hitem projection rfl
    obtain ⟨⟨path, _⟩, hentry, rfl⟩ := List.mem_map.mp hitem
    exact h path projection ((OrderedMap.find?_eq_some_iff _ _ _).mpr hentry)
  · intro h path projection hitem
    have hentry := (OrderedMap.find?_eq_some_iff _ _ _).mp hitem
    exact h _ (List.mem_map_of_mem hentry) projection rfl

/--
Applying a projection tiles the flat projection.  Each item starts behind the columns of
all items before it, and from there on it has the columns of its declared properties in
order, or the scalar that it is.  The starts increase, and each column belongs to exactly
one item.  Before its projection is applied, the flat projection of a select is empty.
-/
theorem applyProjection_tiles (hbuilt : select.Built) (hphase : select.phase = .mapping)
    (hempty : select.projection = []) :
    ∃ applied starts, applyProjection.on select = (.ok starts, applied) ∧
      applied = { select with projection := applied.projection, phase := .applied } ∧
      starts.keys = select.mapping.keys ∧
      (∀ k path item, select.mapping.entries[k]? = some (path, item) →
        let start := ((select.mapping.values.take k).map ProjectedItem.width).sum
        starts.find? path = some start ∧
          item.Yields ((applied.projection.drop start).take item.width)) ∧
      applied.projection.length = (select.mapping.values.map ProjectedItem.width).sum ∧
      starts.values.Pairwise (· < ·) ∧
      ∀ i < applied.projection.length, ∃! path, ∃ item start, select.item? path = some item ∧
        starts.find? path = some start ∧ start ≤ i ∧ i < start + item.width := by
  have hitems := built_iff.mp hbuilt
  refine ⟨{ select with projection := select.mapping.flatten, phase := .applied },
    select.mapping.starts, on_applyProjection_of_empty hphase hempty, rfl, ?keys, ?items,
    ProjectionMapping.length_flatten hitems, ProjectionMapping.pairwise_starts hitems, ?covering⟩
  case keys => exact ProjectionMapping.keys_startsFrom 0 _
  case items =>
    intro k path item hk
    have hvalue := ProjectionMapping.getElem?_values hk
    have hstart : ((select.mapping.values.take k).map ProjectedItem.width).sum =
        select.mapping.offset k := by
      rw [ProjectionMapping.offset, ProjectionMapping.widths, List.map_take]
    have hcolumns := ProjectionMapping.take_drop_flatten hitems hvalue
    dsimp only
    rw [hstart]
    refine ⟨((ProjectionMapping.find?_starts_iff hitems).mpr ⟨k, hk, rfl⟩).2, ?_⟩
    exact hcolumns ▸ (hitems item (List.mem_of_getElem? hvalue)).yields
  case covering =>
    intro i hi
    exact ProjectionMapping.existsUnique_covering hitems hi

end Select

/-! ## A scalar between entities -/

namespace Customers

def twice : Select :=
  { query.select with
    mapping := .ofList
      [(⟨["First"]⟩, .entity ⟨entity, "c", columns⟩),
        (⟨["Number"]⟩, .scalar (.value (.constant (.int 1) .int32) (some ⟨"integer", .int32⟩))),
        (⟨["Second"]⟩, .entity ⟨entity, "c", columns⟩)] }

theorem built_twice : twice.Built := by
  have hcustomer : ProjectedItem.Built (.entity ⟨entity, "c", columns⟩) := by
    rintro projection ⟨⟩
    exact ⟨_, builtWith_query .root _ rfl⟩
  rw [Select.built_iff]
  intro item hitem
  have hvalues : twice.mapping.values = [.entity ⟨entity, "c", columns⟩,
      .scalar (.value (.constant (.int 1) .int32) (some ⟨"integer", .int32⟩)),
      .entity ⟨entity, "c", columns⟩] := rfl
  simp only [hvalues, List.mem_cons, List.not_mem_nil, or_false] at hitem
  rcases hitem with rfl | rfl | rfl
  · exact hcustomer
  · exact fun _ h => nomatch h
  · exact hcustomer

end Customers

namespace Select

theorem applyProjection_tiles_twice :
    ∃ applied starts, applyProjection.on Customers.twice = (.ok starts, applied) ∧
      starts.find? ⟨["Number"]⟩ = some 3 ∧ starts.find? ⟨["Second"]⟩ = some 4 ∧
      applied.projection.length = 7 ∧
      (ProjectedItem.entity ⟨Customers.entity, "c", Customers.columns⟩).Yields
        ((applied.projection.drop 4).take 3) := by
  obtain ⟨applied, starts, happly, -, -, hitems, hlength, -, -⟩ :=
    applyProjection_tiles Customers.built_twice rfl rfl
  obtain ⟨hnumber, -⟩ := hitems 1 _ _ rfl
  obtain ⟨hsecond, hyields⟩ := hitems 2 _ _ rfl
  exact ⟨applied, starts, happly, hnumber, hsecond, hlength, hyields⟩

end Select

end QueryBinding
