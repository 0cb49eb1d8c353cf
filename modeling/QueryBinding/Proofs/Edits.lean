import Mathlib.Data.List.Induction
import Mathlib.Data.Set.Card
import QueryBinding.Proofs.Configuration
import QueryBinding.Proofs.Construction

/-!
# Edited tables of store types

A table of store types is edited by setting and removing, in any order and any number of
times.  The last edit of a host type decides what it is mapped to, and where there is none
the table is as it was at the start.  The size of a table, what it gives back when a type is
removed, its faults and its equality with another table all follow from its look-ups.
-/

namespace QueryBinding

/-! ## Maps -/

namespace OrderedMap

variable {κ α : Type} [DecidableEq κ]

theorem encard_found (m : OrderedMap κ α) :
    Set.encard {key | (m.find? key).isSome} = m.size := by
  have hkeys : {key | (m.find? key).isSome} = (m.keys.toFinset : Set κ) := by
    ext key
    simp [find?_isSome_iff]
  have hcard : m.keys.toFinset.card = m.size :=
    (List.toFinset_card_of_nodup m.nodup_keys).trans (List.length_map Prod.fst)
  rw [hkeys, Set.encard_coe_eq_coe_finsetCard, hcard]

theorem agree_beq_iff [DecidableEq α] {m n : OrderedMap κ α} :
    m.agree (· == ·) n = true ↔ ∀ key, m.find? key = n.find? key := by
  rw [agree_iff]
  refine forall_congr' fun key => ?_
  cases m.find? key <;> cases n.find? key <;> simp

end OrderedMap

inductive StoreEdit where
  | set (type : HostType) (storeType : String)
  | remove (type : HostType)
  deriving DecidableEq, Repr

def StoreEdit.type : StoreEdit → HostType
  | .set type _ => type
  | .remove type => type

theorem MappingSource.boolMapping_eq_error_iff {source : MappingSource} {fault : Fault} :
    source.boolMapping = .error fault ↔
      source.find? .bool = none ∧ fault = .config .noBooleanMapping := by
  unfold boolMapping
  cases source.find? .bool <;> simp [eq_comm]

namespace StoreTypes

variable {types others start : StoreTypes} {edits : List StoreEdit} {edit : StoreEdit}
  {type : HostType} {mapping : TypeMapping} {storeType : String}

/-! ## Observations of a table -/

theorem remove_eq (types : StoreTypes) (type : HostType) :
    types.remove type = (types.find? type, types.erase type) := by
  simp only [remove, OrderedMap.remove_eq]
  rfl

theorem find?_erase (types : StoreTypes) (type other : HostType) :
    (types.erase type).find? other = if type = other then none else types.find? other := by
  by_cases h : type = other <;> simp [find?, erase, h]

theorem encard_mapped (types : StoreTypes) :
    Set.encard {type | (types.find? type).isSome} = types.size :=
  types.table.encard_found

theorem agree_iff_find?_eq :
    types.agree others = true ↔ ∀ type, types.find? type = others.find? type :=
  OrderedMap.agree_beq_iff

/-! ## Runs of edits -/

def apply (types : StoreTypes) : StoreEdit → StoreTypes
  | .set type storeType => types.insert type storeType
  | .remove type => (types.remove type).2

def run (types : StoreTypes) (edits : List StoreEdit) : StoreTypes :=
  edits.foldl apply types

/--
The store type that edits of a table leave to a host type: the one that was set last and not
removed after that, or the one that the type had at the start and that no edit has touched.
-/
inductive Leaves (start : StoreTypes) (edits : List StoreEdit) (type : HostType)
    (storeType : String) : Prop
  | set (before after : List StoreEdit) (hsplit : edits = before ++ .set type storeType :: after)
      (hafter : ∀ edit ∈ after, edit.type ≠ type)
  | kept (huntouched : ∀ edit ∈ edits, edit.type ≠ type)
      (hstart : start.find? type = some ⟨storeType, type⟩)

theorem find?_apply_of_ne (types : StoreTypes) (h : edit.type ≠ type) :
    (types.apply edit).find? type = types.find? type := by
  cases edit with
  | set other storeType => exact (types.find?_insert other type storeType).trans (if_neg h)
  | remove other =>
      rw [apply, remove_eq]
      exact (types.find?_erase other type).trans (if_neg h)

theorem find?_apply_type (types : StoreTypes) (edit : StoreEdit) :
    (types.apply edit).find? edit.type = some mapping ↔
      mapping.hostType = edit.type ∧ edit = .set edit.type mapping.storeType := by
  obtain ⟨storeType, hostType⟩ := mapping
  cases edit with
  | set type other => simp [StoreEdit.type, apply, find?_insert, eq_comm, and_comm]
  | remove type => simp [StoreEdit.type, apply, remove_eq, find?_erase]

theorem leaves_nil :
    start.Leaves [] type storeType ↔ start.find? type = some ⟨storeType, type⟩ := by
  constructor
  · rintro (⟨before, after, hsplit, -⟩ | ⟨-, hstart⟩)
    · cases before <;> cases hsplit
    · exact hstart
  · exact .kept (by simp)

theorem find?_eq_some_iff :
    start.find? type = some mapping ↔
      mapping.hostType = type ∧ start.Leaves [] type mapping.storeType := by
  rw [leaves_nil]
  constructor
  · intro hfind
    obtain rfl := start.keyed type mapping hfind
    exact ⟨rfl, hfind⟩
  · rintro ⟨rfl, hfind⟩
    exact hfind

theorem forall_type_ne_append_singleton :
    (∀ other ∈ edits ++ [edit], other.type ≠ type) ↔
      (∀ other ∈ edits, other.type ≠ type) ∧ edit.type ≠ type := by
  rw [List.forall_mem_append, List.forall_mem_singleton]

theorem leaves_append_singleton :
    start.Leaves (edits ++ [edit]) type storeType ↔
      if edit.type = type then edit = .set type storeType
      else start.Leaves edits type storeType := by
  constructor
  · rintro (⟨before, after, hsplit, hafter⟩ | ⟨huntouched, hstart⟩)
    · rcases after.eq_nil_or_concat' with rfl | ⟨after, last, rfl⟩
      · obtain ⟨rfl, hlast⟩ := List.append_inj' hsplit rfl
        cases hlast
        simp [StoreEdit.type]
      · rw [← List.cons_append, ← List.append_assoc] at hsplit
        obtain ⟨rfl, hlast⟩ := List.append_inj' hsplit rfl
        cases hlast
        obtain ⟨hbetween, hother⟩ := forall_type_ne_append_singleton.mp hafter
        rw [if_neg hother]
        exact .set before after rfl hbetween
    · obtain ⟨huntouched, hother⟩ := forall_type_ne_append_singleton.mp huntouched
      rw [if_neg hother]
      exact .kept huntouched hstart
  · split
    · rintro rfl
      exact .set edits [] rfl (by simp)
    · next hother =>
        rintro (⟨before, after, rfl, hafter⟩ | ⟨huntouched, hstart⟩)
        · have hlater := forall_type_ne_append_singleton.mpr ⟨hafter, hother⟩
          exact .set before (after ++ [edit]) (by simp) hlater
        · exact .kept (forall_type_ne_append_singleton.mpr ⟨huntouched, hother⟩) hstart

theorem find?_run :
    (start.run edits).find? type = some mapping ↔
      mapping.hostType = type ∧ start.Leaves edits type mapping.storeType := by
  induction edits using List.reverseRecOn with
  | nil => exact find?_eq_some_iff
  | append_singleton edits edit ih =>
      have hrun : start.run (edits ++ [edit]) = (start.run edits).apply edit :=
        List.foldl_concat ..
      rw [hrun, leaves_append_singleton]
      split
      · next htype =>
          subst htype
          exact find?_apply_type (start.run edits) edit
      · next hother => rw [find?_apply_of_ne _ hother, ih]

/--
After any edits a host type has the store type that was last set for it and not removed
after that, or else its own at the start, and no other mapping.  A table gives back the
mapping that it removes, its size counts the mapped types, and it lacks a mapping, that of
booleans too, exactly where a look-up finds none.  Tables agree exactly if all look-ups do,
however they were edited.
-/
theorem run_leaves :
    (∀ (start : StoreTypes) (edits : List StoreEdit) (type : HostType) (mapping : TypeMapping),
      (start.run edits).source.find? type = some mapping ↔
        mapping.hostType = type ∧ start.Leaves edits type mapping.storeType) ∧
    (∀ types : StoreTypes,
      (∀ type, (types.remove type).1 = types.source.find? type) ∧
      Set.encard {type | (types.source.find? type).isSome} = types.size ∧
      (∀ type,
        (∀ mapping, types.source.mapping type = .ok mapping ↔
          types.source.find? type = some mapping) ∧
        ∀ fault, types.source.mapping type = .error fault ↔
          types.source.find? type = none ∧ fault = .unmappedType type) ∧
      (∀ mapping, types.source.boolMapping = .ok mapping ↔
        types.source.find? .bool = some mapping) ∧
      ∀ fault, types.source.boolMapping = .error fault ↔
        types.source.find? .bool = none ∧ fault = .config .noBooleanMapping) ∧
    ∀ types others : StoreTypes, types.agree others = true ↔
      ∀ type, types.source.find? type = others.source.find? type := by
  refine ⟨fun _ _ _ _ => find?_run, fun types => ?observed, fun _ _ => agree_iff_find?_eq⟩
  case observed =>
    have hremoved : ∀ type, (types.remove type).1 = types.source.find? type := by
      intro type
      rw [remove_eq]
      rfl
    have hbool : ∀ mapping, types.source.boolMapping = .ok mapping ↔
        types.source.find? .bool = some mapping := by
      intro mapping
      rw [MappingSource.boolMapping_eq_ok_iff, mapping_eq_ok_iff]
    exact ⟨hremoved, types.encard_mapped,
      fun _ => ⟨fun _ => mapping_eq_ok_iff, fun _ => Translator.mapping_eq_error_iff⟩,
      hbool, fun _ => MappingSource.boolMapping_eq_error_iff⟩

example :
    let edits : List StoreEdit := [.set .bool "bit", .remove .string, .set .string "varchar"]
    (standard.run edits).find? .string = some ⟨"varchar", .string⟩ ∧
      (standard.run edits.reverse).find? .string = none ∧
      (standard.run edits).size = 11 ∧ (standard.run edits.reverse).size = 10 := by
  decide

end StoreTypes

end QueryBinding
