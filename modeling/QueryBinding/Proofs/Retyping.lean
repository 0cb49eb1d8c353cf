import Mathlib.Data.List.Basic
import QueryBinding.Expr.Induction
import QueryBinding.Projection

/-!
# Host types within

The host types and the constants that expressions, entities and projections hold at any
depth, the buffers of rows included.  Retyping puts another type in the place of each host
type and leaves everything else as it is.
-/

namespace QueryBinding

variable {f : HostType → HostType}

theorem map_eq_self {α : Type} {g : α → α} {xs : List α} (h : ∀ x ∈ xs, g x = x) :
    xs.map g = xs := by
  rw [List.map_congr_left h, List.map_id']

theorem optionMap_eq_self {α : Type} {g : α → α} {x : Option α} (h : ∀ y ∈ x, g y = y) :
    x.map g = x := by
  cases x with
  | none => rfl
  | some y => rw [Option.map_some, h y rfl]

/-! ## Mappings and entities -/

def TypeMapping.retype (f : HostType → HostType) (mapping : TypeMapping) : TypeMapping :=
  { mapping with hostType := f mapping.hostType }

def Property.retype (f : HostType → HostType) (property : Property) : Property :=
  { property with hostType := f property.hostType }

def Column.retype (f : HostType → HostType) (column : Column) : Column :=
  { column with type := f column.type }

namespace EntityType

def retype (f : HostType → HostType) (entity : EntityType) : EntityType :=
  { entity with properties := entity.properties.map (Property.retype f) }

def hostTypes (entity : EntityType) : List HostType :=
  entity.properties.map Property.hostType

theorem hostTypes_retype (f : HostType → HostType) (entity : EntityType) :
    (entity.retype f).hostTypes = entity.hostTypes.map f := by
  simp [hostTypes, retype, Property.retype]

theorem retype_eq_self {entity : EntityType} (h : ∀ type ∈ entity.hostTypes, f type = type) :
    entity.retype f = entity := by
  have hproperties : entity.properties.map (Property.retype f) = entity.properties := by
    apply map_eq_self
    intro property hproperty
    have htype := h property.hostType (List.mem_map_of_mem hproperty)
    rw [Property.retype, htype]
  rw [retype, hproperties]

end EntityType

/-! ## Expressions -/

namespace Expr

mutual

def retype (f : HostType → HostType) : Expr → Expr
  | .constant value type => .constant value (f type)
  | .parameter name type => .parameter name (f type)
  | .member receiver name type => .member (retypeOption f receiver) name (f type)
  | .call receiver method args type =>
      .call (retypeOption f receiver) method (retypeAll f args) (f type)
  | .binary op left right type => .binary op (left.retype f) (right.retype f) (f type)
  | .unary op operand type => .unary op (operand.retype f) (f type)
  | .row entity buffer => .row (entity.retype f) (buffer.retype f)
  | .projected path type => .projected path (f type)
  | .scalar inner mapping isCondition =>
      .scalar (inner.retype f) (mapping.map (TypeMapping.retype f)) isCondition
  | .column c => .column (c.retype f)
  | .cast operand type storeType => .cast (operand.retype f) (f type) storeType
  | .function inst name schema args type =>
      .function (retypeOption f inst) name schema (retypeAll f args) (f type)
  | .fragment sql type => .fragment sql (f type)

def retypeOption (f : HostType → HostType) : Option Expr → Option Expr
  | some e => some (e.retype f)
  | none => none

def retypeAll (f : HostType → HostType) : List Expr → List Expr
  | [] => []
  | e :: rest => e.retype f :: retypeAll f rest

end

mutual

def hostTypes : Expr → List HostType
  | .constant _ type | .parameter _ type | .projected _ type | .fragment _ type => [type]
  | .member receiver _ type => hostTypesOption receiver ++ [type]
  | .call receiver _ args type => hostTypesOption receiver ++ hostTypesAll args ++ [type]
  | .binary _ left right type => left.hostTypes ++ right.hostTypes ++ [type]
  | .unary _ operand type => operand.hostTypes ++ [type]
  | .row entity buffer => entity.hostTypes ++ buffer.hostTypes
  | .scalar inner mapping _ => inner.hostTypes ++ mapping.toList.map TypeMapping.hostType
  | .column c => [c.type]
  | .cast operand type _ => operand.hostTypes ++ [type]
  | .function inst _ _ args type => hostTypesOption inst ++ hostTypesAll args ++ [type]

def hostTypesOption : Option Expr → List HostType
  | some e => e.hostTypes
  | none => []

def hostTypesAll : List Expr → List HostType
  | [] => []
  | e :: rest => e.hostTypes ++ hostTypesAll rest

end

mutual

def constants : Expr → List Value
  | .constant value _ => [value]
  | .member receiver _ _ => constantsOption receiver
  | .call receiver _ args _ => constantsOption receiver ++ constantsAll args
  | .binary _ left right _ => left.constants ++ right.constants
  | .unary _ operand _ => operand.constants
  | .row _ buffer => buffer.constants
  | .scalar inner _ _ => inner.constants
  | .cast operand _ _ => operand.constants
  | .function inst _ _ args _ => constantsOption inst ++ constantsAll args
  | .parameter .. | .projected .. | .column .. | .fragment .. => []

def constantsOption : Option Expr → List Value
  | some e => e.constants
  | none => []

def constantsAll : List Expr → List Value
  | [] => []
  | e :: rest => e.constants ++ constantsAll rest

end

@[simp] theorem retypeOption_eq_map (f : HostType → HostType) (e : Option Expr) :
    retypeOption f e = e.map (retype f) := by
  cases e <;> rfl

@[simp] theorem retypeAll_eq_map (f : HostType → HostType) (es : List Expr) :
    retypeAll f es = es.map (retype f) := by
  induction es with
  | nil => rfl
  | cons e rest ih => simp [retypeAll, ih]

@[simp] theorem hostTypesOption_eq_flatMap (e : Option Expr) :
    hostTypesOption e = e.toList.flatMap hostTypes := by
  cases e <;> simp [hostTypesOption]

@[simp] theorem hostTypesAll_eq_flatMap (es : List Expr) :
    hostTypesAll es = es.flatMap hostTypes := by
  induction es with
  | nil => rfl
  | cons e rest ih => rw [hostTypesAll, ih, List.flatMap_cons]

@[simp] theorem constantsOption_eq_flatMap (e : Option Expr) :
    constantsOption e = e.toList.flatMap constants := by
  cases e <;> simp [constantsOption]

@[simp] theorem constantsAll_eq_flatMap (es : List Expr) :
    constantsAll es = es.flatMap constants := by
  induction es with
  | nil => rfl
  | cons e rest ih => rw [constantsAll, ih, List.flatMap_cons]

section Parts

variable {α : Type} {g : Expr → Expr} {k l : Expr → List α}

theorem flatMap_map_all {es : List Expr} (h : ∀ e ∈ es, k (g e) = l e) :
    (es.map g).flatMap k = es.flatMap l := by
  rw [List.flatMap_map]
  exact List.flatMap_congr h

theorem flatMap_map_option {e : Option Expr} (h : ∀ d ∈ e, k (g d) = l d) :
    (e.map g).toList.flatMap k = e.toList.flatMap l := by
  rw [Option.toList_map]
  exact flatMap_map_all (by simpa using h)

end Parts

theorem retype_eq_self {e : Expr} (h : ∀ type ∈ e.hostTypes, f type = type) :
    e.retype f = e := by
  induction e with
  | member receiver name type ih =>
      simp only [hostTypes, hostTypesOption_eq_flatMap, List.forall_mem_append,
        List.forall_mem_flatMap, Option.mem_toList, List.forall_mem_singleton] at h
      have hreceiver := optionMap_eq_self fun r hr => ih r hr (h.1 r hr)
      simp only [retype, retypeOption_eq_map, hreceiver, h.2]
  | call receiver method args type ihReceiver ihArgs =>
      simp only [hostTypes, hostTypesOption_eq_flatMap, hostTypesAll_eq_flatMap,
        List.forall_mem_append, List.forall_mem_flatMap, Option.mem_toList,
        List.forall_mem_singleton] at h
      have hreceiver := optionMap_eq_self fun r hr => ihReceiver r hr (h.1.1 r hr)
      have hargs := map_eq_self fun a ha => ihArgs a ha (h.1.2 a ha)
      simp only [retype, retypeOption_eq_map, retypeAll_eq_map, hreceiver, hargs, h.2]
  | function inst name schema args type ihInst ihArgs =>
      simp only [hostTypes, hostTypesOption_eq_flatMap, hostTypesAll_eq_flatMap,
        List.forall_mem_append, List.forall_mem_flatMap, Option.mem_toList,
        List.forall_mem_singleton] at h
      have hinst := optionMap_eq_self fun r hr => ihInst r hr (h.1.1 r hr)
      have hargs := map_eq_self fun a ha => ihArgs a ha (h.1.2 a ha)
      simp only [retype, retypeOption_eq_map, retypeAll_eq_map, hinst, hargs, h.2]
  | binary op left right type ihLeft ihRight =>
      simp only [hostTypes, List.forall_mem_append, List.forall_mem_singleton] at h
      simp only [retype, ihLeft h.1.1, ihRight h.1.2, h.2]
  | unary op operand type ih | cast operand type storeType ih =>
      simp only [hostTypes, List.forall_mem_append, List.forall_mem_singleton] at h
      simp only [retype, ih h.1, h.2]
  | row entity buffer ih =>
      simp only [hostTypes, List.forall_mem_append] at h
      simp only [retype, ih h.2, EntityType.retype_eq_self h.1]
  | scalar inner mapping isCondition ih =>
      simp only [hostTypes, List.forall_mem_append, List.forall_mem_map, Option.mem_toList] at h
      have hmapping : mapping.map (TypeMapping.retype f) = mapping :=
        optionMap_eq_self fun m hm => by rw [TypeMapping.retype, h.2 m hm]
      simp only [retype, ih h.1, hmapping]
  | column c =>
      simp only [hostTypes, List.forall_mem_singleton] at h
      simp only [retype, Column.retype, h]
  | constant value type | parameter name type | projected path type | fragment sql type =>
      simp only [hostTypes, List.forall_mem_singleton] at h
      simp only [retype, h]

theorem hostTypes_retype (f : HostType → HostType) (e : Expr) :
    (e.retype f).hostTypes = e.hostTypes.map f := by
  induction e with
  | member receiver name type ih =>
      simp [retype, hostTypes, List.map_flatMap, flatMap_map_option ih]
  | call receiver method args type ihReceiver ihArgs =>
      simp [retype, hostTypes, List.map_flatMap, flatMap_map_option ihReceiver,
        flatMap_map_all ihArgs]
  | function inst name schema args type ihInst ihArgs =>
      simp [retype, hostTypes, List.map_flatMap, flatMap_map_option ihInst,
        flatMap_map_all ihArgs]
  | binary op left right type ihLeft ihRight => simp [retype, hostTypes, ihLeft, ihRight]
  | unary op operand type ih => simp [retype, hostTypes, ih]
  | row entity buffer ih => simp [retype, hostTypes, ih, EntityType.hostTypes_retype]
  | scalar inner mapping isCondition ih =>
      cases mapping <;> simp [retype, hostTypes, ih, TypeMapping.retype]
  | cast operand type storeType ih => simp [retype, hostTypes, ih]
  | _ => rfl

theorem constants_retype (f : HostType → HostType) (e : Expr) :
    (e.retype f).constants = e.constants := by
  induction e with
  | member receiver name type ih => simp [retype, constants, flatMap_map_option ih]
  | call receiver method args type ihReceiver ihArgs =>
      simp [retype, constants, flatMap_map_option ihReceiver, flatMap_map_all ihArgs]
  | function inst name schema args type ihInst ihArgs =>
      simp [retype, constants, flatMap_map_option ihInst, flatMap_map_all ihArgs]
  | binary op left right type ihLeft ihRight => simp [retype, constants, ihLeft, ihRight]
  | unary op operand type ih => simp [retype, constants, ih]
  | row entity buffer ih => simp [retype, constants, ih]
  | scalar inner mapping isCondition ih => simp [retype, constants, ih]
  | cast operand type storeType ih => simp [retype, constants, ih]
  | _ => rfl

end Expr

/-! ## Scalars and projections -/

namespace Scalar

def retype (f : HostType → HostType) (s : Scalar) : Scalar :=
  { s with inner := s.inner.retype f, mapping := s.mapping.map (TypeMapping.retype f) }

def hostTypes (s : Scalar) : List HostType :=
  s.inner.hostTypes ++ s.mapping.toList.map TypeMapping.hostType

def constants (s : Scalar) : List Value :=
  s.inner.constants

theorem hostTypes_retype (f : HostType → HostType) (s : Scalar) :
    (s.retype f).hostTypes = s.hostTypes.map f :=
  Expr.hostTypes_retype f s.toExpr

theorem constants_retype (f : HostType → HostType) (s : Scalar) :
    (s.retype f).constants = s.constants :=
  Expr.constants_retype f s.inner

theorem retype_eq_self {s : Scalar} (h : ∀ type ∈ s.hostTypes, f type = type) :
    s.retype f = s := by
  have hexpr : s.toExpr.retype f = s.toExpr := Expr.retype_eq_self h
  obtain ⟨inner, mapping, isCondition⟩ := s
  simp only [toExpr, Expr.retype, Expr.scalar.injEq] at hexpr
  simp [retype, hexpr]

end Scalar

def OrderedMap.mapValues {κ α β : Type} (g : α → β) (m : OrderedMap κ α) : OrderedMap κ β :=
  ⟨m.entries.map fun entry => (entry.1, g entry.2), by
    rw [List.map_map]
    exact m.nodup_keys⟩

theorem OrderedMap.values_mapValues {κ α β : Type} (g : α → β) (m : OrderedMap κ α) :
    (m.mapValues g).values = m.values.map g := by
  simp [values, mapValues]

theorem OrderedMap.mapValues_eq_self {κ α : Type} {g : α → α} {m : OrderedMap κ α}
    (h : ∀ value ∈ m.values, g value = value) : m.mapValues g = m := by
  obtain ⟨entries, hkeys⟩ := m
  simp only [mapValues, mk.injEq]
  apply map_eq_self
  intro entry hentry
  have hvalue := h entry.2 (List.mem_map_of_mem hentry)
  rw [hvalue]

namespace EntityProjection

def retype (f : HostType → HostType) (projection : EntityProjection) : EntityProjection :=
  { projection with
    entity := projection.entity.retype f
    columns := projection.columns.mapValues (Scalar.retype f) }

def hostTypes (projection : EntityProjection) : List HostType :=
  projection.entity.hostTypes ++ projection.columns.values.flatMap Scalar.hostTypes

def constants (projection : EntityProjection) : List Value :=
  projection.columns.values.flatMap Scalar.constants

theorem hostTypes_retype (f : HostType → HostType) (projection : EntityProjection) :
    (projection.retype f).hostTypes = projection.hostTypes.map f := by
  simp [hostTypes, retype, OrderedMap.values_mapValues, EntityType.hostTypes_retype,
    List.map_flatMap, List.flatMap_map, Scalar.hostTypes_retype]

theorem constants_retype (f : HostType → HostType) (projection : EntityProjection) :
    (projection.retype f).constants = projection.constants := by
  simp [constants, retype, OrderedMap.values_mapValues, List.flatMap_map,
    Scalar.constants_retype]

theorem retype_eq_self {projection : EntityProjection}
    (h : ∀ type ∈ projection.hostTypes, f type = type) : projection.retype f = projection := by
  obtain ⟨entity, tableAlias, columns⟩ := projection
  simp only [hostTypes, List.forall_mem_append, List.forall_mem_flatMap] at h
  have hentity := EntityType.retype_eq_self h.1
  have hcolumns := OrderedMap.mapValues_eq_self fun s hs => Scalar.retype_eq_self (h.2 s hs)
  simp only [retype, hentity, hcolumns]

end EntityProjection

namespace ProjectedItem

def retype (f : HostType → HostType) : ProjectedItem → ProjectedItem
  | .entity projection => .entity (projection.retype f)
  | .scalar s => .scalar (s.retype f)

def hostTypes : ProjectedItem → List HostType
  | .entity projection => projection.hostTypes
  | .scalar s => s.hostTypes

def constants : ProjectedItem → List Value
  | .entity projection => projection.constants
  | .scalar s => s.constants

theorem hostTypes_retype (f : HostType → HostType) (item : ProjectedItem) :
    (item.retype f).hostTypes = item.hostTypes.map f := by
  cases item with
  | entity projection => exact projection.hostTypes_retype f
  | scalar s => exact s.hostTypes_retype f

theorem constants_retype (f : HostType → HostType) (item : ProjectedItem) :
    (item.retype f).constants = item.constants := by
  cases item with
  | entity projection => exact projection.constants_retype f
  | scalar s => exact s.constants_retype f

theorem retype_eq_self {item : ProjectedItem} (h : ∀ type ∈ item.hostTypes, f type = type) :
    item.retype f = item := by
  cases item with
  | entity projection => exact congrArg entity (EntityProjection.retype_eq_self h)
  | scalar s => exact congrArg scalar (Scalar.retype_eq_self h)

end ProjectedItem

end QueryBinding
