import QueryBinding.Fault
import QueryBinding.OrderedMap

/-!
# Store types

A type mapping pairs a host type with the type that the store gives it.  A
mapping source answers which mapping a host type has; the table `StoreTypes` is
the source that configurations build.
-/

namespace QueryBinding

structure TypeMapping where
  storeType : String
  hostType : HostType
  deriving DecidableEq, Repr

def TypeMapping.render (mapping : TypeMapping) : String :=
  mapping.hostType.name ++ " => " ++ mapping.storeType

/-! ## Sources -/

structure MappingSource where
  find? : HostType → Option TypeMapping

namespace MappingSource

def mapping (source : MappingSource) (type : HostType) : Except Fault TypeMapping :=
  match source.find? type with
  | some mapping => .ok mapping
  | none => .error (.unmappedType type)

def boolMapping (source : MappingSource) : Except Fault TypeMapping :=
  match source.find? .bool with
  | some mapping => .ok mapping
  | none => .error (.config .noBooleanMapping)

end MappingSource

/-! ## Tables of store types -/

/-- The mappings of host types, each stored under its own. -/
structure StoreTypes where
  table : OrderedMap HostType TypeMapping
  keyed : ∀ type mapping, table.find? type = some mapping → mapping.hostType = type
  deriving DecidableEq, Repr

namespace StoreTypes

def empty : StoreTypes where
  table := .empty
  keyed := nofun

def insert (types : StoreTypes) (type : HostType) (storeType : String) : StoreTypes where
  table := types.table.insert type ⟨storeType, type⟩
  keyed other mapping h := by
    rw [OrderedMap.find?_insert] at h
    split at h
    · next hsame =>
        cases h
        exact hsame
    · exact types.keyed other mapping h

def erase (types : StoreTypes) (type : HostType) : StoreTypes where
  table := types.table.erase type
  keyed other mapping h := by
    rw [OrderedMap.find?_erase] at h
    split at h
    · cases h
    · exact types.keyed other mapping h

def remove (types : StoreTypes) (type : HostType) : Option TypeMapping × StoreTypes :=
  let removed := types.table.remove type
  have hrest : removed.2 = types.table.erase type :=
    congrArg Prod.snd (types.table.remove_eq type)
  (removed.1, ⟨removed.2, hrest ▸ (types.erase type).keyed⟩)

def insertAll (types : StoreTypes) (mappings : List (HostType × String)) : StoreTypes :=
  mappings.foldl (fun types mapping => types.insert mapping.1 mapping.2) types

def standard : StoreTypes :=
  empty.insertAll
    [(.bool, "boolean"), (.int16, "smallint"), (.int32, "integer"), (.int64, "bigint"),
      (.float32, "real"), (.float64, "double precision"), (.decimal, "decimal(18, 2)"),
      (.string, "text"), (.dateTime, "timestamp"), (.uuid, "uuid"), (.bytes, "bytea")]

def size (types : StoreTypes) : Nat :=
  types.table.size

def isEmpty (types : StoreTypes) : Bool :=
  types.table.isEmpty

def find? (types : StoreTypes) (type : HostType) : Option TypeMapping :=
  types.table.find? type

def source (types : StoreTypes) : MappingSource :=
  ⟨types.find?⟩

/-- Whether two tables hold the same mappings, in any order. -/
def agree (types others : StoreTypes) : Bool :=
  types.table.agree (· == ·) others.table

end StoreTypes

end QueryBinding
