import QueryBinding.Codec.Projection
import QueryBinding.Proofs.Columns
import QueryBinding.Proofs.Documents
import QueryBinding.Proofs.Moments
import QueryBinding.Proofs.Names
import QueryBinding.Proofs.Retyping

/-!
# Documents read back

Expressions, entities and projections are read back from the documents that are written of
them.  Host types are written by their names, so they come back in their canonical form, and
everything else comes back as it was.
-/

namespace QueryBinding

open Document (Limits)

variable {limits : Limits}

/-! ## Leaves -/

@[simp] theorem HostType.ofDocument_toDocument (type : HostType) :
    HostType.ofDocument type.toDocument = some type.canonical :=
  rfl

theorem TypeMapping.ofDocument_toDocument {mapping : TypeMapping}
    (h : mapping.toDocument.nesting ≤ limits.depth) :
    TypeMapping.ofDocument limits mapping.toDocument =
      some (mapping.retype HostType.canonical) := by
  obtain ⟨depth, allowExcess, rfl, hparts⟩ := Document.limits_of_nesting_record h
  simp [TypeMapping.ofDocument, TypeMapping.toDocument, retype, Document.asText?]

theorem Property.ofDocument_toDocument {property : Property}
    (h : property.toDocument.nesting ≤ limits.depth) :
    Property.ofDocument limits property.toDocument =
      some (property.retype HostType.canonical) := by
  obtain ⟨depth, allowExcess, rfl, hparts⟩ := Document.limits_of_nesting_record h
  simp [Property.ofDocument, Property.toDocument, Property.fieldList, retype, Document.asText?,
    Document.orDefault, Document.asBool?]

theorem EntityType.ofDocument_toDocument {entity : EntityType}
    (h : entity.toDocument.nesting ≤ limits.depth) :
    EntityType.ofDocument limits entity.toDocument = some (entity.retype HostType.canonical) := by
  obtain ⟨depth, allowExcess, rfl, hparts⟩ := Document.limits_of_nesting_record h
  simp only [List.forall_mem_cons] at hparts
  have hproperties : Document.readList Property.ofDocument ⟨depth, allowExcess⟩
      (.list (entity.properties.map Property.toDocument)) =
        some (entity.properties.map (Property.retype HostType.canonical)) :=
    Document.readList_map hparts.2.2.2.1 fun _ _ _ hp => Property.ofDocument_toDocument hp
  simp [EntityType.ofDocument, EntityType.toDocument, EntityType.fieldList, retype,
    Document.asText?, Document.orDefault, hproperties]

@[simp] theorem Column.ofDocument_toDocument (column : Column) (depth : Nat)
    (allowExcess : Bool) :
    Column.ofDocument ⟨depth + 1, allowExcess⟩ column.toDocument =
      some (column.retype HostType.canonical) := by
  simp [Column.ofDocument, Column.toDocument, retype, Document.asText?, Document.asBool?]

theorem MethodRef.ofDocument_toDocument {method : MethodRef}
    (h : method.toDocument.nesting ≤ limits.depth) :
    MethodRef.ofDocument limits method.toDocument = some method := by
  obtain ⟨depth, allowExcess, rfl, -⟩ := Document.limits_of_nesting_record h
  simp [MethodRef.ofDocument, MethodRef.toDocument, Document.asText?]

theorem ProjectionPath.ofDocument_toDocument {path : ProjectionPath}
    (h : path.toDocument.nesting ≤ limits.depth) :
    ProjectionPath.ofDocument limits path.toDocument = some path := by
  have hsteps : Document.readList (fun _ step => step.asText?) limits
      (.list (path.steps.map .text)) = some (path.steps.map id) :=
    Document.readList_map h fun _ _ _ _ => rfl
  simp [ProjectionPath.ofDocument, ProjectionPath.toDocument, hsteps]

@[simp] theorem BinaryOp.ofDocument_toDocument (op : BinaryOp) (limits : Limits) :
    BinaryOp.ofDocument limits op.toDocument = some op := by
  cases op <;> rfl

@[simp] theorem UnaryOp.ofDocument_toDocument (op : UnaryOp) (limits : Limits) :
    UnaryOp.ofDocument limits op.toDocument = some op := by
  cases op <;> rfl

def Value.isFinite : Value → Bool
  | .float x => x.isFinite
  | _ => true

theorem Document.asInt64?_toInt (n : Int64) : asInt64? (.integer n.toInt) = some n := by
  rw [asInt64?, if_pos ⟨n.minValue_le_toInt, n.toInt_le⟩, Int64.ofInt_toInt]

/-- Identifiers and timestamps are read back from the texts that are written of them. -/
structure TextCodecs.Lawful (codecs : TextCodecs) : Prop where
  readUuid_writeUuid : ∀ u, codecs.readUuid (codecs.writeUuid u) = some u
  readTimestamp_writeTimestamp : ∀ t, codecs.readTimestamp (codecs.writeTimestamp t) = some t

theorem TextCodecs.lawful_standard : TextCodecs.standard.Lawful := by
  constructor
  · intro u
    dsimp only [standard]
    exact u.read?_render
  · intro t
    dsimp only [standard]
    exact t.read?_renderWith

variable {codecs : TextCodecs}

theorem Value.ofDocument_toDocument {v : Value} (hcodecs : codecs.Lawful)
    (hfinite : v.isFinite = true) (h : (v.toDocument codecs).nesting ≤ limits.depth) :
    Value.ofDocument codecs limits (v.toDocument codecs) = some v := by
  cases v with
  | null => simp [Value.ofDocument, Value.toDocument, Document.tagged?, Document.isBare]
  | float x =>
      have hx : x.isFinite = true := hfinite
      obtain ⟨depth, allowExcess, rfl, -⟩ := Document.limits_of_nesting_record h
      simp [Value.ofDocument, Value.toDocument, hx, Document.asReal?]
  | bool b | int n | string s | uuid u | timestamp t =>
      obtain ⟨depth, allowExcess, rfl, -⟩ := Document.limits_of_nesting_record h
      simp [Value.ofDocument, Value.toDocument, Document.asBool?, Document.asText?,
        Document.asInt64?_toInt, hcodecs.readUuid_writeUuid,
        hcodecs.readTimestamp_writeTimestamp]

theorem optionalMapping_read {mapping : Option TypeMapping} {depth : Nat} (allowExcess : Bool)
    (h : (optionalMapping mapping).nesting ≤ depth) :
    Document.nullable (TypeMapping.ofDocument ⟨depth, allowExcess⟩)
      (some (optionalMapping mapping)) =
      some (mapping.map (TypeMapping.retype HostType.canonical)) := by
  cases mapping with
  | none => rfl
  | some mapping =>
      have hread : TypeMapping.ofDocument ⟨depth, allowExcess⟩ mapping.toDocument =
          some (mapping.retype HostType.canonical) := TypeMapping.ofDocument_toDocument h
      rw [optionalMapping, Document.nullable_of_ne_null (by simp [TypeMapping.toDocument]), hread]
      rfl

/-! ## Expressions -/

namespace Expr

variable {e : Expr} {depth : Nat}

theorem exists_record (codecs : TextCodecs) (e : Expr) :
    ∃ tag fields, e.toDocument codecs = .record [(tag, .record fields)] := by
  cases e <;> exact ⟨_, _, rfl⟩

theorem depth_of_node {tag : String} {fields : List (String × Document)}
    (h : (Document.record [(tag, .record fields)]).nesting ≤ depth) :
    ∃ inner, depth = inner + 2 ∧ ∀ field ∈ fields, field.2.nesting ≤ inner := by
  obtain ⟨outer, rfl, hcontent⟩ := Document.nesting_record_le_iff.mp h
  have hrecord := hcontent _ List.mem_cons_self
  obtain ⟨inner, rfl, hfields⟩ := Document.nesting_record_le_iff.mp hrecord
  exact ⟨inner, rfl, hfields⟩

/-- Wherever its brackets may be opened, the expression is read in its canonical form. -/
def ReadsBack (codecs : TextCodecs) (e : Expr) : Prop :=
  ∀ {depth : Nat}, (∀ v ∈ e.constants, v.isFinite = true) →
    (e.toDocument codecs).nesting ≤ depth →
    ofDocument codecs depth (e.toDocument codecs) = some (e.retype HostType.canonical)

theorem optionToDocument_read {receiver : Option Expr} (ih : ∀ r ∈ receiver, r.ReadsBack codecs)
    (hfinite : ∀ v ∈ constantsOption receiver, v.isFinite = true)
    (h : (optionToDocument codecs receiver).nesting ≤ depth) :
    Document.nullable (ofDocument codecs depth) (some (optionToDocument codecs receiver)) =
      some (receiver.map (retype HostType.canonical)) := by
  cases receiver with
  | none => rfl
  | some r =>
      obtain ⟨tag, fields, hrecord⟩ := r.exists_record codecs
      have hne : r.toDocument codecs ≠ .null := by simp [hrecord]
      have hread := ih r rfl hfinite h
      rw [optionToDocument, Document.nullable_of_ne_null hne, hread]
      rfl

theorem allToDocuments_read {args : List Expr} (ih : ∀ a ∈ args, a.ReadsBack codecs)
    (hfinite : ∀ v ∈ constantsAll args, v.isFinite = true)
    (h : (Document.list (allToDocuments codecs args)).nesting ≤ depth) :
    ∃ inner, depth = inner + 1 ∧
      Document.readList (fun _ => ofDocument codecs inner) ⟨inner + 1, false⟩
        (.list (args.map (toDocument codecs))) = some (args.map (retype HostType.canonical)) := by
  rw [constantsAll_eq_flatMap, List.forall_mem_flatMap] at hfinite
  rw [allToDocuments_eq_map] at h
  obtain ⟨inner, rfl, hitems⟩ := Document.nesting_list_le_iff.mp h
  refine ⟨inner, rfl, ?_⟩
  rw [Document.readList, Document.opened?_succ]
  exact Document.mapM_map_eq_some fun a ha =>
    ih a ha (hfinite a ha) (hitems _ (List.mem_map_of_mem ha))

theorem readsBack (hcodecs : codecs.Lawful) (e : Expr) : e.ReadsBack codecs := by
  induction e with
  | constant value type =>
      intro depth hfinite h
      obtain ⟨inner, rfl, hparts⟩ := depth_of_node h
      simp only [List.forall_mem_cons] at hparts
      have hvalue : Value.ofDocument codecs ⟨inner, false⟩ (value.toDocument codecs) = some value :=
        Value.ofDocument_toDocument hcodecs (hfinite value List.mem_cons_self) hparts.1
      simp [toDocument, ofDocument, readContent, retype, hvalue]
  | parameter name type | fragment name type =>
      intro depth _ h
      obtain ⟨inner, rfl, -⟩ := depth_of_node h
      simp [toDocument, ofDocument, readContent, retype, Document.asText?]
  | member receiver name type ih =>
      intro depth hfinite h
      obtain ⟨inner, rfl, hparts⟩ := depth_of_node h
      simp only [List.forall_mem_cons] at hparts
      have hreceiver := optionToDocument_read ih hfinite hparts.1
      simp [toDocument, ofDocument, readContent, retype, Document.asText?, hreceiver]
  | call receiver method args type ihReceiver ihArgs =>
      intro depth hfinite h
      obtain ⟨inner, rfl, hparts⟩ := depth_of_node h
      simp only [List.forall_mem_cons] at hparts
      simp only [constants, List.forall_mem_append] at hfinite
      have hreceiver := optionToDocument_read ihReceiver hfinite.1 hparts.1
      have hmethod : MethodRef.ofDocument ⟨inner, false⟩ method.toDocument = some method :=
        MethodRef.ofDocument_toDocument hparts.2.1
      obtain ⟨innermost, rfl, hargs⟩ := allToDocuments_read ihArgs hfinite.2 hparts.2.2.1
      simp [toDocument, ofDocument, readContent, retype, hreceiver, hmethod, hargs]
  | binary op left right type ihLeft ihRight =>
      intro depth hfinite h
      obtain ⟨inner, rfl, hparts⟩ := depth_of_node h
      simp only [List.forall_mem_cons] at hparts
      simp only [constants, List.forall_mem_append] at hfinite
      have hleft := ihLeft hfinite.1 hparts.2.1
      have hright := ihRight hfinite.2 hparts.2.2.1
      simp [toDocument, ofDocument, readContent, retype, hleft, hright]
  | unary op operand type ih =>
      intro depth hfinite h
      obtain ⟨inner, rfl, hparts⟩ := depth_of_node h
      simp only [List.forall_mem_cons] at hparts
      have hoperand := ih hfinite hparts.2.1
      simp [toDocument, ofDocument, readContent, retype, hoperand]
  | row entity buffer ih =>
      intro depth hfinite h
      obtain ⟨inner, rfl, hparts⟩ := depth_of_node h
      simp only [List.forall_mem_cons] at hparts
      have hentity : EntityType.ofDocument ⟨inner, false⟩ entity.toDocument =
          some (entity.retype HostType.canonical) := EntityType.ofDocument_toDocument hparts.1
      have hbuffer := ih hfinite hparts.2.1
      simp [toDocument, ofDocument, readContent, retype, hentity, hbuffer]
  | projected path type =>
      intro depth _ h
      obtain ⟨inner, rfl, hparts⟩ := depth_of_node h
      simp only [List.forall_mem_cons] at hparts
      have hpath : ProjectionPath.ofDocument ⟨inner, false⟩ path.toDocument = some path :=
        ProjectionPath.ofDocument_toDocument hparts.1
      simp [toDocument, ofDocument, readContent, retype, hpath]
  | scalar inner mapping isCondition ih =>
      intro depth hfinite h
      obtain ⟨innermost, rfl, hparts⟩ := depth_of_node h
      simp only [List.forall_mem_cons] at hparts
      have hinner := ih hfinite hparts.1
      have hmapping := optionalMapping_read false hparts.2.1
      simp [toDocument, ofDocument, readContent, Scalar.readWith, retype, hinner, hmapping,
        Document.asBool?, Scalar.toExpr]
  | column c =>
      intro depth _ h
      obtain ⟨inner, rfl, -⟩ := depth_of_node h
      simp [toDocument, ofDocument, readContent, retype]
  | cast operand type storeType ih =>
      intro depth hfinite h
      obtain ⟨inner, rfl, hparts⟩ := depth_of_node h
      simp only [List.forall_mem_cons] at hparts
      have hoperand := ih hfinite hparts.1
      simp [toDocument, ofDocument, readContent, retype, hoperand, Document.asText?]
  | function inst name schema args type ihInst ihArgs =>
      intro depth hfinite h
      obtain ⟨inner, rfl, hparts⟩ := depth_of_node h
      simp only [List.forall_mem_cons] at hparts
      simp only [constants, List.forall_mem_append] at hfinite
      have hinst := optionToDocument_read ihInst hfinite.1 hparts.1
      obtain ⟨innermost, rfl, hargs⟩ := allToDocuments_read ihArgs hfinite.2 hparts.2.2.2.1
      simp [toDocument, ofDocument, readContent, retype, Document.asText?, hinst, hargs]

end Expr

/-! ## Scalars and projections -/

theorem Scalar.ofDocument_toDocument {s : Scalar} {depth : Nat} (hcodecs : codecs.Lawful)
    (hfinite : ∀ v ∈ s.constants, v.isFinite = true)
    (h : (s.toDocument codecs).nesting ≤ depth) :
    Scalar.ofDocument codecs depth (s.toDocument codecs) =
      some (s.retype HostType.canonical) := by
  obtain ⟨inner, rfl, hparts⟩ := Document.nesting_record_le_iff.mp h
  simp only [List.forall_mem_cons] at hparts
  have hinner := s.inner.readsBack hcodecs hfinite hparts.1
  have hmapping := optionalMapping_read false hparts.2.1
  simp [Scalar.ofDocument, toDocument, readWith, retype, hinner, hmapping, Document.asBool?]

theorem OrderedMap.ofList_entries {κ α : Type} [DecidableEq κ] (m : OrderedMap κ α) :
    ofList m.entries = m := by
  have hentries := entries_ofList m.nodup_keys
  cases hlist : ofList m.entries
  rw [hlist] at hentries
  cases m
  simpa using hentries

namespace EntityProjection

theorem readColumns_entries {columns : OrderedMap String Scalar} {depth : Nat}
    (allowExcess : Bool) (hcodecs : codecs.Lawful)
    (hfinite : ∀ s ∈ columns.values, ∀ v ∈ s.constants, v.isFinite = true)
    (h : (Document.record (columns.entries.map fun entry =>
      (entry.1, entry.2.toDocument codecs))).nesting ≤ depth) :
    readColumns codecs ⟨depth, allowExcess⟩
        (.record (columns.entries.map fun entry => (entry.1, entry.2.toDocument codecs))) =
      some (columns.mapValues (Scalar.retype HostType.canonical)) := by
  obtain ⟨inner, rfl, hparts⟩ := Document.nesting_record_le_iff.mp h
  have hentries : (columns.entries.map fun entry => (entry.1, entry.2.toDocument codecs)).mapM
      (fun field => do return (field.1, ← Scalar.ofDocument codecs inner field.2)) =
      some (columns.mapValues (Scalar.retype HostType.canonical)).entries := by
    refine Document.mapM_map_eq_some fun entry hentry => ?_
    have hvalue : entry.2 ∈ columns.values := List.mem_map_of_mem hentry
    have hread := Scalar.ofDocument_toDocument hcodecs (hfinite _ hvalue)
      (hparts _ (List.mem_map_of_mem hentry))
    simp [hread]
  have hmade := congrArg (Option.map OrderedMap.ofList) hentries
  rw [Option.map_some, OrderedMap.ofList_entries] at hmade
  rw [readColumns, Document.opened?_succ, ← hmade]
  exact (Option.map_eq_bind ..).symm

theorem ofDocument_toDocument {projection : EntityProjection} (hcodecs : codecs.Lawful)
    (hfinite : ∀ v ∈ projection.constants, v.isFinite = true)
    (h : (projection.toDocument codecs).nesting ≤ limits.depth) :
    EntityProjection.ofDocument codecs limits (projection.toDocument codecs) =
      some (projection.retype HostType.canonical) := by
  obtain ⟨depth, allowExcess, rfl, hparts⟩ := Document.limits_of_nesting_record h
  simp only [List.forall_mem_cons] at hparts
  rw [constants, List.forall_mem_flatMap] at hfinite
  have hentity : EntityType.ofDocument ⟨depth, allowExcess⟩ projection.entity.toDocument =
      some (projection.entity.retype HostType.canonical) :=
    EntityType.ofDocument_toDocument hparts.1
  have hcolumns := readColumns_entries allowExcess hcodecs hfinite hparts.2.2.1
  simp [EntityProjection.ofDocument, toDocument, retype, Document.asText?, hentity, hcolumns]

end EntityProjection

theorem ProjectedItem.ofDocument_toDocument {item : ProjectedItem} (hcodecs : codecs.Lawful)
    (hfinite : ∀ v ∈ item.constants, v.isFinite = true)
    (h : (item.toDocument codecs).nesting ≤ limits.depth) :
    ProjectedItem.ofDocument codecs limits (item.toDocument codecs) =
      some (item.retype HostType.canonical) := by
  cases item with
  | entity projection =>
      obtain ⟨depth, allowExcess, rfl, hcontent⟩ := Document.limits_of_nesting_record h
      have hread : EntityProjection.ofDocument codecs ⟨depth, allowExcess⟩
          (projection.toDocument codecs) = some (projection.retype HostType.canonical) :=
        EntityProjection.ofDocument_toDocument hcodecs hfinite (hcontent _ List.mem_cons_self)
      simp [ProjectedItem.ofDocument, toDocument, retype, hread]
  | scalar s =>
      obtain ⟨depth, allowExcess, rfl, hcontent⟩ := Document.limits_of_nesting_record h
      have hread := Scalar.ofDocument_toDocument hcodecs hfinite (hcontent _ List.mem_cons_self)
      simp [ProjectedItem.ofDocument, toDocument, retype, hread]

/-! ## Round trips -/

/--
What is written of `x` is read wherever its brackets may be opened.  The result is `x`
itself if the names of the host types in `x` denote these types, and it is read back as it
is when it is written in its turn.
-/
def RoundTrips {α : Type} (write : α → Document) (read : Limits → Document → Option α)
    (hostTypes : α → List HostType) (x : α) : Prop :=
  ∃ y, (∀ limits : Limits, (write x).nesting ≤ limits.depth → read limits (write x) = some y) ∧
    ((∀ type ∈ hostTypes x, HostType.ofName type.name = type) → y = x) ∧
    ∀ limits : Limits, (write y).nesting ≤ limits.depth → read limits (write y) = some y

theorem roundTrips_of_retype {α : Type} {write : α → Document}
    {read : Limits → Document → Option α} {hostTypes : α → List HostType}
    {constants : α → List Value} {retype : α → α}
    (hread : ∀ x limits, (∀ v ∈ constants x, v.isFinite = true) →
      (write x).nesting ≤ limits.depth → read limits (write x) = some (retype x))
    (hself : ∀ x, (∀ type ∈ hostTypes x, type.canonical = type) → retype x = x)
    (htypes : ∀ x, hostTypes (retype x) = (hostTypes x).map HostType.canonical)
    (hconstants : ∀ x, constants (retype x) = constants x) {x : α}
    (hfinite : ∀ v ∈ constants x, v.isFinite = true) : RoundTrips write read hostTypes x := by
  have hcanonical : ∀ type ∈ hostTypes (retype x), type.canonical = type := by
    rw [htypes, List.forall_mem_map]
    intro type _
    exact type.canonical_canonical
  have hfinite' : ∀ v ∈ constants (retype x), v.isFinite = true := by rwa [hconstants]
  refine ⟨retype x, fun limits h => hread x limits hfinite h, hself x, fun limits h => ?_⟩
  rw [hread (retype x) limits hfinite' h, hself (retype x) hcanonical]

/--
Expressions, scalars, entities, their projections and projected items without NaN and
infinite constants are read back from their documents: as they are if their host types are
known by their names, and with other host types after which nothing changes any more.  Of the
texts of identifiers and timestamps nothing counts but that they are read back, as the
standard ones are.
-/
theorem documents_roundTrip :
    TextCodecs.standard.Lawful ∧ ∀ codecs : TextCodecs, codecs.Lawful →
    (∀ e : Expr, (∀ v ∈ e.constants, v.isFinite = true) →
      RoundTrips (Expr.toDocument codecs) (fun limits => Expr.ofDocument codecs limits.depth)
        Expr.hostTypes e) ∧
    (∀ s : Scalar, (∀ v ∈ s.constants, v.isFinite = true) →
      RoundTrips (Scalar.toDocument codecs)
        (fun limits => Scalar.ofDocument codecs limits.depth) Scalar.hostTypes s) ∧
    (∀ entity : EntityType,
      RoundTrips EntityType.toDocument EntityType.ofDocument EntityType.hostTypes entity) ∧
    (∀ projection : EntityProjection, (∀ v ∈ projection.constants, v.isFinite = true) →
      RoundTrips (EntityProjection.toDocument codecs) (EntityProjection.ofDocument codecs)
        EntityProjection.hostTypes projection) ∧
    (∀ item : ProjectedItem, (∀ v ∈ item.constants, v.isFinite = true) →
      RoundTrips (ProjectedItem.toDocument codecs) (ProjectedItem.ofDocument codecs)
        ProjectedItem.hostTypes item) := by
  refine ⟨TextCodecs.lawful_standard, fun codecs hcodecs => ⟨fun e he => ?expr,
    fun s hs => ?scalar, fun entity => ?entity, fun projection hprojection => ?projection,
    fun item hitem => ?item⟩⟩
  case expr =>
    exact roundTrips_of_retype (fun e _ hfinite h => e.readsBack hcodecs hfinite h)
      (fun _ => Expr.retype_eq_self) (Expr.hostTypes_retype _) (Expr.constants_retype _) he
  case scalar =>
    exact roundTrips_of_retype
      (fun _ _ hfinite h => Scalar.ofDocument_toDocument hcodecs hfinite h)
      (fun _ => Scalar.retype_eq_self) (Scalar.hostTypes_retype _) (Scalar.constants_retype _) hs
  case entity =>
    exact @roundTrips_of_retype _ _ _ _ (fun _ => []) _
      (fun _ _ _ h => EntityType.ofDocument_toDocument h) (fun _ => EntityType.retype_eq_self)
      (EntityType.hostTypes_retype _) (fun _ => rfl) entity (by simp)
  case projection =>
    exact roundTrips_of_retype
      (fun _ _ hfinite h => EntityProjection.ofDocument_toDocument hcodecs hfinite h)
      (fun _ => EntityProjection.retype_eq_self) (EntityProjection.hostTypes_retype _)
      (EntityProjection.constants_retype _) hprojection
  case item =>
    exact roundTrips_of_retype
      (fun _ _ hfinite h => ProjectedItem.ofDocument_toDocument hcodecs hfinite h)
      (fun _ => ProjectedItem.retype_eq_self) (ProjectedItem.hostTypes_retype _)
      (ProjectedItem.constants_retype _) hitem

theorem documents_roundTrip_customers :
    let codecs := TextCodecs.standard
    let customer := HostType.entity "Customer"
    let since : Timestamp := ⟨-44, 6, 30, 23, 59, 59, 1500000000, by decide⟩
    let within (type : HostType) := Expr.call
      (some (.row Customers.entity (.projected ⟨["Customer"]⟩ customer))) ⟨"Customer", "Within"⟩
      [.constant (.timestamp since) .dateTime, .constant (.uuid ⟨255⟩) .uuid,
        .scalar (.parameter "least" type) (some ⟨"integer", type⟩) false] .bool
    let item := ProjectedItem.entity ⟨Customers.entity, "c", Customers.columns⟩
    Expr.ofDocument codecs 7 ((within .int32).toDocument codecs) = some (within .int32) ∧
      (∃ y, Expr.ofDocument codecs 7 ((within (.named "int")).toDocument codecs) = some y ∧
        Expr.ofDocument codecs (y.toDocument codecs).nesting (y.toDocument codecs) = some y) ∧
      ProjectedItem.ofDocument codecs ⟨7, false⟩ (item.toDocument codecs) = some item := by
  intro codecs customer since within item
  have hfinite : ∀ type, ∀ v ∈ (within type).constants, v.isFinite = true := by
    intro type
    simp [within, Expr.constants, Expr.constantsOption, Expr.constantsAll, Value.isFinite]
  obtain ⟨hlawful, hdocuments⟩ := documents_roundTrip
  obtain ⟨hexpr, -, -, -, hprojected⟩ := hdocuments codecs hlawful
  obtain ⟨y, hread, hself, -⟩ := hexpr (within .int32) (hfinite .int32)
  obtain ⟨z, hread', -, hagain⟩ := hexpr (within (.named "int")) (hfinite _)
  obtain ⟨item', hitem, hitemSelf, -⟩ := hprojected item (by decide)
  obtain rfl := hself (by decide)
  obtain rfl := hitemSelf (by decide)
  exact ⟨hread ⟨7, false⟩ (by decide),
    ⟨z, hread' ⟨7, false⟩ (by decide), hagain ⟨_, false⟩ (Nat.le_refl _)⟩,
    hitem ⟨7, false⟩ (by decide)⟩

end QueryBinding
