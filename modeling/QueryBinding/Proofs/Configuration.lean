import Mathlib.Data.List.Induction
import Mathlib.Data.List.Nodup
import QueryBinding.Config
import QueryBinding.Proofs.Agreement
import QueryBinding.Proofs.ByteOrder

/-!
# Configured store types

Names of store types are set one after the other, each replacing what an earlier name of
its host type has set.  A configuration sorts them first: of several names for one host
type the greatest decides, and the order in which they are written leaves no trace.
-/

namespace QueryBinding

/-- Among the given mappings, this one has the greatest name of a host type. -/
structure Decides (mappings : List (String × String)) (type : HostType)
    (name storeType : String) : Prop where
  mem : (name, storeType) ∈ mappings
  denotes : HostType.ofName name = type
  greatest : ∀ other ∈ mappings, HostType.ofName other.1 = type →
    Text.bytes other.1 ≤ Text.bytes name

namespace Decides

variable {mappings others : List (String × String)} {mapping : String × String}
  {type : HostType} {name storeType : String}

theorem of_perm (hperm : mappings.Perm others) (h : Decides mappings type name storeType) :
    Decides others type name storeType where
  mem := hperm.mem_iff.mp h.mem
  denotes := h.denotes
  greatest other hother := h.greatest other (hperm.mem_iff.mpr hother)

theorem last (hbefore : ∀ other ∈ mappings, other.1 ≤ mapping.1)
    (htype : HostType.ofName mapping.1 = type) :
    Decides (mappings ++ [mapping]) type mapping.1 mapping.2 where
  mem := List.mem_append_right mappings (List.mem_singleton_self mapping)
  denotes := htype
  greatest := by
    rw [List.forall_mem_append, List.forall_mem_singleton]
    constructor
    · intro other hother _
      exact Text.bytes_le_bytes_iff.mpr (hbefore other hother)
    · intro _
      exact List.le_refl (Text.bytes mapping.1)

theorem append_singleton (htype : HostType.ofName mapping.1 ≠ type)
    (h : Decides mappings type name storeType) :
    Decides (mappings ++ [mapping]) type name storeType where
  mem := List.mem_append_left [mapping] h.mem
  denotes := h.denotes
  greatest := by
    rw [List.forall_mem_append, List.forall_mem_singleton]
    exact ⟨h.greatest, fun hmapping => absurd hmapping htype⟩

end Decides

namespace StoreTypes

theorem find?_insert (types : StoreTypes) (type other : HostType) (storeType : String) :
    (types.insert type storeType).find? other =
      if type = other then some ⟨storeType, other⟩ else types.find? other := by
  by_cases h : type = other <;> simp [find?, insert, h]

theorem agree_refl (types : StoreTypes) : types.agree types = true := by
  rw [agree, OrderedMap.agree_iff]
  intro key
  cases types.table.find? key with
  | none => exact .none
  | some storeType => exact .some (beq_self_eq_true storeType)

def insertNamed (types : StoreTypes) (mappings : List (String × String)) : StoreTypes :=
  mappings.foldl (fun types mapping => types.insert (.ofName mapping.1) mapping.2) types

theorem insertNamed_append_singleton (types : StoreTypes) (mappings : List (String × String))
    (mapping : String × String) :
    types.insertNamed (mappings ++ [mapping]) =
      (types.insertNamed mappings).insert (.ofName mapping.1) mapping.2 := by
  rw [insertNamed, insertNamed, List.foldl_append, List.foldl_cons, List.foldl_nil]

theorem insertNamed_cases (types : StoreTypes) (type : HostType)
    {mappings : List (String × String)}
    (hsorted : mappings.Pairwise fun mapping other => mapping.1 ≤ other.1) :
    (∃ name storeType, Decides mappings type name storeType ∧
        (types.insertNamed mappings).find? type = some ⟨storeType, type⟩) ∨
      ((∀ mapping ∈ mappings, HostType.ofName mapping.1 ≠ type) ∧
        (types.insertNamed mappings).find? type = types.find? type) := by
  induction mappings using List.reverseRecOn with
  | nil => exact .inr ⟨by simp, rfl⟩
  | append_singleton mappings mapping ih =>
      obtain ⟨hsorted, -, hlast⟩ := List.pairwise_append.mp hsorted
      rw [insertNamed_append_singleton, find?_insert]
      by_cases htype : HostType.ofName mapping.1 = type
      · rw [if_pos htype]
        have hbefore : ∀ other ∈ mappings, other.1 ≤ mapping.1 := by
          intro other hother
          exact hlast other hother mapping (List.mem_singleton_self mapping)
        exact .inl ⟨mapping.1, mapping.2, Decides.last hbefore htype, rfl⟩
      · rw [if_neg htype]
        rcases ih hsorted with ⟨name, storeType, hdecides, hfind⟩ | ⟨hnone, hfind⟩
        · exact .inl ⟨name, storeType, hdecides.append_singleton htype, hfind⟩
        · refine .inr ⟨?_, hfind⟩
          rw [List.forall_mem_append, List.forall_mem_singleton]
          exact ⟨hnone, htype⟩

end StoreTypes

namespace Config

variable {config other : Config}

/-! ## The order of the names -/

theorem sortedMappings_perm (config : Config) :
    config.sortedMappings.Perm config.typeMappings.entries :=
  List.mergeSort_perm _ _

theorem pairwise_sortedMappings (config : Config) :
    config.sortedMappings.Pairwise fun mapping other => mapping.1 ≤ other.1 := by
  have htrans : ∀ a b c : String × String, decide (a.1 ≤ b.1) = true →
      decide (b.1 ≤ c.1) = true → decide (a.1 ≤ c.1) = true := by
    intro a b c hab hbc
    simp only [decide_eq_true_eq] at hab hbc ⊢
    exact String.le_trans hab hbc
  have htotal : ∀ a b : String × String, (decide (a.1 ≤ b.1) || decide (b.1 ≤ a.1)) = true := by
    intro a b
    simpa using String.le_total a.1 b.1
  simpa [sortedMappings] using
    List.pairwise_mergeSort htrans htotal config.typeMappings.entries

theorem sortedMappings_eq_of_perm
    (h : config.typeMappings.entries.Perm other.typeMappings.entries) :
    config.sortedMappings = other.sortedMappings := by
  have hperm : config.sortedMappings.Perm other.sortedMappings :=
    config.sortedMappings_perm.trans (h.trans other.sortedMappings_perm.symm)
  refine List.Perm.eq_of_pairwise ?_ config.pairwise_sortedMappings
    other.pairwise_sortedMappings hperm
  intro mapping mapping' hmem hmem' hle hle'
  exact List.inj_on_of_nodup_map config.typeMappings.nodup_keys
    (config.sortedMappings_perm.mem_iff.mp hmem)
    (h.mem_iff.mpr (other.sortedMappings_perm.mem_iff.mp hmem')) (String.le_antisymm hle hle')

def initialTypes (config : Config) : StoreTypes :=
  if config.replaceStandard then .empty else .standard

theorem storeTypes_eq_insertNamed (config : Config) :
    config.storeTypes = config.initialTypes.insertNamed config.sortedMappings :=
  rfl

theorem find?_initialTypes (config : Config) (type : HostType) :
    config.initialTypes.find? type =
      if config.replaceStandard then none else StoreTypes.standard.find? type := by
  unfold initialTypes
  split <;> rfl

theorem storeTypes_cases (config : Config) (type : HostType) :
    (∃ name storeType, Decides config.typeMappings.entries type name storeType ∧
        config.storeTypes.find? type = some ⟨storeType, type⟩) ∨
      ((∀ name ∈ config.typeMappings.keys, HostType.ofName name ≠ type) ∧
        config.storeTypes.find? type =
          if config.replaceStandard then none else StoreTypes.standard.find? type) := by
  rw [storeTypes_eq_insertNamed, ← find?_initialTypes]
  rcases config.initialTypes.insertNamed_cases type config.pairwise_sortedMappings with
    ⟨name, storeType, hdecides, hfind⟩ | ⟨hnone, hfind⟩
  · exact .inl ⟨name, storeType, hdecides.of_perm config.sortedMappings_perm, hfind⟩
  · refine .inr ⟨?_, hfind⟩
    simp only [OrderedMap.keys, List.forall_mem_map]
    intro mapping hmapping
    exact hnone mapping (config.sortedMappings_perm.mem_iff.mpr hmapping)

theorem storeTypes_eq_of_perm
    (hmappings : config.typeMappings.entries.Perm other.typeMappings.entries)
    (hreplace : config.replaceStandard = other.replaceStandard) :
    config.storeTypes = other.storeTypes := by
  rw [storeTypes_eq_insertNamed, storeTypes_eq_insertNamed, initialTypes, initialTypes, hreplace,
    sortedMappings_eq_of_perm hmappings]

/-! ## The order in a document -/

def readMapping (field : String × Document) : Option (String × String) := do
  return (field.1, ← field.2.asText?)

theorem readMappings_record (fields : List (String × Document)) :
    readMappings (.record fields) = (fields.mapM readMapping).map .ofList := by
  rw [Option.map_eq_bind]
  rfl

theorem keys_mapM_readMapping {fields : List (String × Document)}
    {mappings : List (String × String)} (h : fields.mapM readMapping = some mappings) :
    mappings.map Prod.fst = fields.map Prod.fst := by
  induction fields generalizing mappings with
  | nil =>
      cases h
      rfl
  | cons field fields ih =>
      simp only [List.mapM_cons, readMapping, Option.bind_eq_bind, Option.bind_eq_some_iff,
        Option.pure_def, Option.some.injEq] at h
      obtain ⟨_, ⟨storeType, -, rfl⟩, rest, hrest, rfl⟩ := h
      rw [List.map_cons, List.map_cons, ih hrest]

theorem storeTypes_readMappings_perm {fields fields' : List (String × Document)}
    (hdistinct : (fields.map Prod.fst).Nodup) (hperm : fields.Perm fields') :
    Option.Rel
      (fun mappings mappings' => ∀ replaceStandard entities entities',
        storeTypes ⟨mappings, replaceStandard, entities⟩ =
          storeTypes ⟨mappings', replaceStandard, entities'⟩)
      (readMappings (.record fields)) (readMappings (.record fields')) := by
  have hread : Option.Rel List.Perm (fields.mapM readMapping) (fields'.mapM readMapping) :=
    mapM_perm hperm
  rw [readMappings_record, readMappings_record]
  generalize hmappings : fields.mapM readMapping = x, hmappings' : fields'.mapM readMapping = y
    at hread ⊢
  cases hread with
  | none => exact .none
  | @some mappings mappings' hread =>
      have hkeys : (mappings.map Prod.fst).Nodup := by
        rwa [keys_mapM_readMapping hmappings]
      have hkeys' : (mappings'.map Prod.fst).Nodup := (hread.map Prod.fst).nodup_iff.mp hkeys
      have hentries : (OrderedMap.ofList mappings).entries.Perm
          (OrderedMap.ofList mappings').entries := by
        rwa [OrderedMap.entries_ofList hkeys, OrderedMap.entries_ofList hkeys']
      exact .some fun _ _ _ => storeTypes_eq_of_perm hentries rfl

/-! ## What a configuration gives -/

theorem parts_eq_ok_iff {model : Model} {types : StoreTypes} :
    config.parts = .ok (model, types) ↔ config.model = .ok model ∧ types = config.storeTypes := by
  simp only [parts, bind_eq_ok_iff, pure_eq_ok_iff, Prod.mk.injEq]
  constructor
  · rintro ⟨_, hmodel, rfl, rfl⟩
    exact ⟨hmodel, rfl⟩
  · rintro ⟨hmodel, rfl⟩
    exact ⟨model, hmodel, rfl, rfl⟩

theorem parts_eq_error_iff {fault : Fault} :
    config.parts = .error fault ↔ config.model = .error fault := by
  simp [parts, bind_eq_error_iff, pure, Except.pure]

/-- The greatest name of a host type decides its store type, and the table starts from the
standard one or from nothing.  Neither a configuration nor the document that it is read from
gives another table when its type mappings are written in another order. -/
theorem storeTypes_independent :
    (∀ (config : Config) (type : HostType),
      (∃ name storeType, Decides config.typeMappings.entries type name storeType ∧
          config.storeTypes.source.find? type = some ⟨storeType, type⟩) ∨
        ((∀ name ∈ config.typeMappings.keys, HostType.ofName name ≠ type) ∧
          config.storeTypes.source.find? type =
            if config.replaceStandard then none else StoreTypes.standard.source.find? type)) ∧
      (∀ config other : Config,
        config.typeMappings.entries.Perm other.typeMappings.entries →
        config.replaceStandard = other.replaceStandard →
        config.storeTypes = other.storeTypes ∧
          config.storeTypes.agree other.storeTypes = true) ∧
      (∀ fields fields' : List (String × Document),
        (fields.map Prod.fst).Nodup → fields.Perm fields' →
        Option.Rel
          (fun mappings mappings' => ∀ replaceStandard entities entities',
            storeTypes ⟨mappings, replaceStandard, entities⟩ =
              storeTypes ⟨mappings', replaceStandard, entities'⟩)
          (readMappings (.record fields)) (readMappings (.record fields'))) ∧
      ∀ config : Config,
        (∀ model types, config.parts = .ok (model, types) ↔
          config.model = .ok model ∧ types = config.storeTypes) ∧
        ∀ fault, config.parts = .error fault ↔ config.model = .error fault := by
  refine ⟨storeTypes_cases, ?order, fun _ _ => storeTypes_readMappings_perm, ?parts⟩
  case order =>
    intro config other hmappings hreplace
    have hsame : config.storeTypes = other.storeTypes := storeTypes_eq_of_perm hmappings hreplace
    refine ⟨hsame, ?_⟩
    rw [hsame]
    exact other.storeTypes.agree_refl
  case parts =>
    intro config
    exact ⟨fun _ _ => parts_eq_ok_iff, fun _ => parts_eq_error_iff⟩

def spellings : List (String × String) :=
  [("int", "int4"), (" i32 ", "number"), ("i32", "serial"), ("money", "numeric")]

def spelled : Config :=
  ⟨.ofList spellings, false, []⟩

def spelledBackwards : Config :=
  ⟨.ofList spellings.reverse, false, []⟩

def writtenSpellings : List (String × Document) :=
  spellings.map fun (name, storeType) => (name, .text storeType)

theorem storeTypes_independent_spelled :
    spelled.storeTypes.source.find? .int32 = some ⟨"int4", .int32⟩ ∧
      spelled.storeTypes = spelledBackwards.storeTypes ∧
      readMappings (.record writtenSpellings) = some spelled.typeMappings ∧
      readMappings (.record writtenSpellings.reverse) = some spelledBackwards.typeMappings ∧
      storeTypes ⟨spelled.typeMappings, true, []⟩ =
        storeTypes ⟨spelledBackwards.typeMappings, true, []⟩ := by
  have hint : HostType.ofName "int" = .int32 := by rfl
  have hmem : ("int", "int4") ∈ spelled.typeMappings.entries := by decide
  have hread : readMappings (.record writtenSpellings) = some spelled.typeMappings := by rfl
  have hread' : readMappings (.record writtenSpellings.reverse) =
      some spelledBackwards.typeMappings := by rfl
  refine ⟨?_, ?_, hread, hread', ?_⟩
  · rcases storeTypes_independent.1 spelled .int32 with
      ⟨name, storeType, hdecides, hfind⟩ | ⟨hnone, -⟩
    · have hle : "int" ≤ name :=
        Text.bytes_le_bytes_iff.mp (hdecides.greatest ("int", "int4") hmem hint)
      have hentry : (name, storeType) ∈ spellings := hdecides.mem
      simp only [spellings, List.mem_cons, Prod.mk.injEq, List.not_mem_nil, or_false] at hentry
      rcases hentry with ⟨rfl, rfl⟩ | ⟨rfl, rfl⟩ | ⟨rfl, rfl⟩ | ⟨rfl, rfl⟩
      · exact hfind
      · exact absurd hle (by decide)
      · exact absurd hle (by decide)
      · exact absurd hdecides.denotes (by decide)
    · exact absurd hint (hnone "int" (List.mem_map_of_mem hmem))
  · exact (storeTypes_independent.2.1 spelled spelledBackwards (by decide) rfl).1
  · have hsame := storeTypes_independent.2.2.1 writtenSpellings writtenSpellings.reverse
      (by decide) (List.reverse_perm _).symm
    rw [hread, hread'] at hsame
    cases hsame with
    | some hsame => exact hsame true [] []

end Config

end QueryBinding
