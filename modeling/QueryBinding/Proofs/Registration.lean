import Mathlib.Data.List.Nodup
import QueryBinding.Model
import QueryBinding.Proofs.Validity

/-!
# Registered entities

A model is built by attempts to register entities, in any number and with any of them
refused.  `Registers` says how the attempts so far account for the model that they lead
to: each attempt keeps it, so it holds of every model that can be reached.  A list of
entities becomes a model when no attempt is refused.
-/

namespace QueryBinding

/-- Why an entity is not registered beside others: for a flaw of its own, or else for its name. -/
inductive EntityType.Refused (names : List String) (entity : EntityType) : SchemaFlaw → Prop
  | flawed {flaw : SchemaFlaw} (hflaw : entity.HasFlaw flaw) : Refused names entity flaw
  | repeated (hvalid : entity.IsValid) (hname : entity.name ∈ names) :
      Refused names entity (.repeatedEntity entity.name)

theorem EntityType.Refused.mem_of_isValid {names : List String} {entity : EntityType}
    {flaw : SchemaFlaw} (h : entity.Refused names flaw) (hvalid : entity.IsValid) :
    entity.name ∈ names := by
  cases h with
  | flawed hflaw =>
      have hfault := EntityType.validate_eq_error_iff.mpr ⟨flaw, rfl, hflaw⟩
      rw [EntityType.validate_eq_ok_iff_isValid.mpr hvalid] at hfault
      cases hfault
  | repeated _ hname => exact hname

namespace Model

variable {model next : Model} {entity stored : EntityType} {attempts entities : List EntityType}
  {name : String} {fault : Fault}

/-! ## Look-up -/

def names (model : Model) : List String :=
  model.table.keys

def Keyed (model : Model) : Prop :=
  ∀ entry ∈ model.table.entries, entry.2.name = entry.1

theorem eq_of_entries (h : model.table.entries = next.table.entries) : model = next := by
  obtain ⟨⟨entries, _⟩⟩ := model
  obtain ⟨⟨others, _⟩⟩ := next
  cases h
  rfl

theorem find?_isSome_iff : (model.find? name).isSome ↔ name ∈ model.names :=
  model.table.find?_isSome_iff name

theorem Keyed.names_eq (h : model.Keyed) : model.names = model.entities.map EntityType.name := by
  rw [names, entities, OrderedMap.keys, OrderedMap.values, List.map_map]
  exact List.map_congr_left fun entry hentry => (h entry hentry).symm

theorem Keyed.find?_eq_some_iff (h : model.Keyed) :
    model.find? name = some entity ↔ entity ∈ model.entities ∧ entity.name = name := by
  refine (model.table.find?_eq_some_iff name entity).trans ?_
  constructor
  · intro hentry
    exact ⟨List.mem_map_of_mem hentry, h _ hentry⟩
  · rintro ⟨hmem, rfl⟩
    obtain ⟨⟨key, entity⟩, hentry, rfl⟩ := List.mem_map.mp hmem
    obtain rfl : entity.name = key := h _ hentry
    exact hentry

theorem entity_eq_ok_iff : model.entity name = .ok entity ↔ model.find? name = some entity := by
  unfold Model.entity
  cases model.find? name <;> simp

theorem entity_eq_error_iff :
    model.entity name = .error fault ↔
      name ∉ model.names ∧ fault = .schema (.unmappedEntity name) := by
  unfold Model.entity
  rw [← find?_isSome_iff]
  cases model.find? name <;> simp [eq_comm]

/-! ## One attempt -/

def Extends (model : Model) (entity : EntityType) (next : Model) : Prop :=
  next.table.entries = model.table.entries ++ [(entity.name, entity)]

theorem Extends.names_eq (h : model.Extends entity next) :
    next.names = model.names ++ [entity.name] := by
  rw [names, OrderedMap.keys, h, List.map_append]
  rfl

theorem Extends.entities_eq (h : model.Extends entity next) :
    next.entities = model.entities ++ [entity] := by
  rw [entities, OrderedMap.values, h, List.map_append]
  rfl

theorem on_add_of_refused {flaw : SchemaFlaw} (h : entity.Refused model.names flaw) :
    (add entity).on model = (.error (.schema flaw), model) := by
  cases h with
  | flawed hflaw =>
      have hvalid := EntityType.validate_eq_error_iff.mpr ⟨flaw, rfl, hflaw⟩
      simp [add, hvalid]
  | repeated hvalid hname =>
      rw [← EntityType.validate_eq_ok_iff_isValid] at hvalid
      rw [← find?_isSome_iff] at hname
      simp [add, hvalid, hname]

theorem on_add_of_free (hvalid : entity.IsValid) (hname : entity.name ∉ model.names) :
    ∃ next, (add entity).on model = (.ok entity, next) ∧ model.Extends entity next := by
  refine ⟨⟨model.table.insert entity.name entity⟩, ?_, OrderedMap.putEntry_of_notMem hname⟩
  rw [← EntityType.validate_eq_ok_iff_isValid] at hvalid
  rw [← find?_isSome_iff] at hname
  simp [add, hvalid, hname]

theorem refused_or_free (names : List String) (entity : EntityType) :
    (∃ flaw, entity.Refused names flaw) ∨ entity.IsValid ∧ entity.name ∉ names := by
  cases hvalid : entity.validate with
  | error fault =>
      obtain ⟨flaw, -, hflaw⟩ := EntityType.validate_eq_error_iff.mp hvalid
      exact .inl ⟨flaw, .flawed hflaw⟩
  | ok =>
      rw [EntityType.validate_eq_ok_iff_isValid] at hvalid
      by_cases hname : entity.name ∈ names
      · exact .inl ⟨_, .repeated hvalid hname⟩
      · exact .inr ⟨hvalid, hname⟩

theorem on_add_eq_ok_iff :
    (add entity).on model = (.ok stored, next) ↔
      entity.IsValid ∧ entity.name ∉ model.names ∧ stored = entity ∧
        model.Extends entity next := by
  constructor
  · intro hadd
    rcases refused_or_free model.names entity with ⟨flaw, hrefused⟩ | ⟨hvalid, hname⟩
    · rw [on_add_of_refused hrefused] at hadd
      cases hadd
    · obtain ⟨after, hfree, hafter⟩ := on_add_of_free hvalid hname
      rw [hfree] at hadd
      cases hadd
      exact ⟨hvalid, hname, rfl, hafter⟩
  · rintro ⟨hvalid, hname, rfl, hnext⟩
    obtain ⟨after, hfree, hafter⟩ := on_add_of_free hvalid hname
    rw [hfree, eq_of_entries (hafter.trans hnext.symm)]

theorem on_add_eq_error_iff :
    (add entity).on model = (.error fault, next) ↔
      (∃ flaw, fault = .schema flaw ∧ entity.Refused model.names flaw) ∧ next = model := by
  constructor
  · intro hadd
    rcases refused_or_free model.names entity with ⟨flaw, hrefused⟩ | ⟨hvalid, hname⟩
    · rw [on_add_of_refused hrefused] at hadd
      cases hadd
      exact ⟨⟨flaw, rfl, hrefused⟩, rfl⟩
    · obtain ⟨after, hfree, -⟩ := on_add_of_free hvalid hname
      rw [hfree] at hadd
      cases hadd
  · rintro ⟨⟨flaw, rfl, hrefused⟩, rfl⟩
    exact on_add_of_refused hrefused

/-! ## Runs of attempts -/

def after (model : Model) (entity : EntityType) : Model :=
  ((add entity).on model).2

def run (model : Model) (attempts : List EntityType) : Model :=
  attempts.foldl after model

def accepted (model : Model) : List EntityType → List EntityType
  | [] => []
  | entity :: rest =>
      match (add entity).on model with
      | (.ok stored, next) => stored :: next.accepted rest
      | (.error _, next) => next.accepted rest

theorem after_cases (model : Model) (entity : EntityType) :
    (entity.IsValid ∧ entity.name ∉ model.names ∧ model.Extends entity (model.after entity)) ∨
      ((entity.IsValid → entity.name ∈ model.names) ∧ model.after entity = model) := by
  cases hadd : (add entity).on model with
  | mk answer next =>
      have hafter : model.after entity = next := congrArg Prod.snd hadd
      rw [hafter]
      cases answer with
      | ok stored =>
          obtain ⟨hvalid, hname, -, hnext⟩ := on_add_eq_ok_iff.mp hadd
          exact .inl ⟨hvalid, hname, hnext⟩
      | error fault =>
          obtain ⟨⟨flaw, -, hrefused⟩, hnext⟩ := on_add_eq_error_iff.mp hadd
          exact .inr ⟨hrefused.mem_of_isValid, hnext⟩

theorem mem_names_after :
    name ∈ (model.after entity).names ↔
      name ∈ model.names ∨ entity.IsValid ∧ entity.name = name := by
  rcases after_cases model entity with ⟨hvalid, -, hafter⟩ | ⟨htaken, hafter⟩
  · simp [hafter.names_eq, hvalid, eq_comm]
  · rw [hafter]
    constructor
    · exact .inl
    · rintro (hname | ⟨hvalid, rfl⟩)
      · exact hname
      · exact htaken hvalid

theorem entities_run (model : Model) (attempts : List EntityType) :
    (model.run attempts).entities = model.entities ++ model.accepted attempts := by
  induction attempts generalizing model with
  | nil => simp [run, accepted]
  | cons entity rest ih =>
      have hrun : model.run (entity :: rest) = (model.after entity).run rest :=
        List.foldl_cons ..
      cases hadd : (add entity).on model with
      | mk answer next =>
          have hafter : model.after entity = next := congrArg Prod.snd hadd
          rw [hrun, hafter, ih, accepted, hadd]
          cases answer with
          | ok stored =>
              obtain ⟨-, -, rfl, hnext⟩ := on_add_eq_ok_iff.mp hadd
              rw [hnext.entities_eq, List.append_assoc]
              rfl
          | error fault =>
              obtain ⟨-, rfl⟩ := on_add_eq_error_iff.mp hadd
              rfl

/-- How the attempts to register entities account for the model that they lead to. -/
structure Registers (attempts : List EntityType) (model : Model) : Prop where
  keyed : model.Keyed
  valid : ∀ entity ∈ model.entities, entity.validate = .ok ()
  distinct : (model.entities.map EntityType.name).Nodup
  taken : ∀ name, name ∈ model.names ↔ ∃ entity ∈ attempts, entity.IsValid ∧ entity.name = name

theorem registers_empty : Registers [] empty :=
  ⟨nofun, nofun, List.nodup_nil, by simp [empty, names, OrderedMap.empty, OrderedMap.keys]⟩

theorem Registers.after (h : Registers attempts model) (entity : EntityType) :
    Registers (attempts ++ [entity]) (model.after entity) := by
  have htaken : ∀ name, name ∈ (model.after entity).names ↔
      ∃ other ∈ attempts ++ [entity], other.IsValid ∧ other.name = name := by
    intro name
    simp [mem_names_after, h.taken name, or_and_right, exists_or]
  rcases after_cases model entity with ⟨hvalid, hname, hafter⟩ | ⟨-, hafter⟩
  · have hkeyed : (model.after entity).Keyed := by
      rw [Keyed, hafter, List.forall_mem_append, List.forall_mem_singleton]
      exact ⟨h.keyed, rfl⟩
    refine ⟨hkeyed, ?_, ?_, htaken⟩
    · rw [hafter.entities_eq, List.forall_mem_append, List.forall_mem_singleton]
      exact ⟨h.valid, EntityType.validate_eq_ok_iff_isValid.mpr hvalid⟩
    · rw [← hkeyed.names_eq]
      exact (model.after entity).table.nodup_keys
  · rw [hafter] at htaken ⊢
    exact ⟨h.keyed, h.valid, h.distinct, htaken⟩

theorem registers_run (attempts : List EntityType) :
    Registers attempts (empty.run attempts) := by
  induction attempts using List.reverseRecOn with
  | nil => exact registers_empty
  | append_singleton attempts entity ih =>
      have hrun : empty.run (attempts ++ [entity]) = (empty.run attempts).after entity :=
        List.foldl_concat ..
      rw [hrun]
      exact ih.after entity

/-! ## Lists of entities -/

theorem register_eq_ok_iff :
    model.register entity = .ok next ↔
      entity.IsValid ∧ entity.name ∉ model.names ∧ model.Extends entity next := by
  have hadd : model.register entity = .ok next ↔
      ∃ stored, (add entity).on model = (.ok stored, next) := by
    rw [register]
    rcases (add entity).on model with ⟨_ | _, _⟩ <;> simp
  simp only [hadd, on_add_eq_ok_iff, exists_and_left, exists_eq_left]

theorem register_eq_error_iff :
    model.register entity = .error fault ↔
      ∃ flaw, fault = .schema flaw ∧ entity.Refused model.names flaw := by
  have hadd : model.register entity = .error fault ↔
      ∃ next, (add entity).on model = (.error fault, next) := by
    rw [register]
    rcases (add entity).on model with ⟨_ | _, _⟩ <;> simp
  simp only [hadd, on_add_eq_error_iff, exists_eq_right]

def Lists (model : Model) (entities : List EntityType) : Prop :=
  model.table.entries = entities.map fun entity => (entity.name, entity)

theorem Lists.names_eq (h : model.Lists entities) :
    model.names = entities.map EntityType.name := by
  rw [names, OrderedMap.keys, h, List.map_map]
  rfl

theorem Lists.entities_eq (h : model.Lists entities) : model.entities = entities := by
  rw [Model.entities, OrderedMap.values, h, List.map_map]
  exact List.map_id entities

theorem Lists.keyed (h : model.Lists entities) : model.Keyed := by
  rw [Keyed, h, List.forall_mem_map]
  exact fun _ _ => rfl

theorem Lists.append_singleton_iff (h : model.Lists entities) :
    next.Lists (entities ++ [entity]) ↔ model.Extends entity next := by
  rw [Lists, Extends, h, List.map_append]
  rfl

theorem exists_lists (h : (entities.map EntityType.name).Nodup) :
    ∃ model : Model, model.Lists entities := by
  have hkeys : ((entities.map fun entity => (entity.name, entity)).map Prod.fst).Nodup := by
    rw [List.map_map]
    exact h
  exact ⟨⟨⟨_, hkeys⟩⟩, rfl⟩

theorem ofEntities_eq_ok_iff :
    ofEntities entities = .ok model ↔
      (∀ entity ∈ entities, entity.IsValid) ∧ (entities.map EntityType.name).Nodup ∧
        model.Lists entities := by
  induction entities using List.reverseRecOn generalizing model with
  | nil =>
      have hempty : ofEntities [] = .ok model ↔ empty = model := pure_eq_ok_iff
      rw [hempty]
      constructor
      · rintro rfl
        exact ⟨nofun, List.nodup_nil, rfl⟩
      · rintro ⟨-, -, hlists⟩
        exact eq_of_entries hlists.symm
  | append_singleton entities entity ih =>
      have hsplit : ofEntities (entities ++ [entity]) = .ok model ↔
          ∃ before, ofEntities entities = .ok before ∧ before.register entity = .ok model := by
        rw [ofEntities, List.foldlM_append, bind_eq_ok_iff]
        simp only [List.foldlM_cons, List.foldlM_nil, bind_pure, ofEntities]
      have hnodup : ((entities ++ [entity]).map EntityType.name).Nodup ↔
          entity.name ∉ entities.map EntityType.name ∧ (entities.map EntityType.name).Nodup := by
        rw [List.map_append, List.nodup_append_comm]
        exact List.nodup_cons
      rw [hsplit, hnodup, List.forall_mem_append, List.forall_mem_singleton]
      simp only [ih, register_eq_ok_iff]
      constructor
      · rintro ⟨before, ⟨hvalid, hdistinct, hbefore⟩, hentity, hname, hnext⟩
        rw [hbefore.names_eq] at hname
        exact ⟨⟨hvalid, hentity⟩, ⟨hname, hdistinct⟩, hbefore.append_singleton_iff.mpr hnext⟩
      · rintro ⟨⟨hvalid, hentity⟩, ⟨hname, hdistinct⟩, hlists⟩
        obtain ⟨before, hbefore⟩ := exists_lists hdistinct
        rw [← hbefore.names_eq] at hname
        exact ⟨before, ⟨hvalid, hdistinct, hbefore⟩, hentity, hname,
          hbefore.append_singleton_iff.mp hlists⟩

theorem ofEntities_eq_error_iff :
    ofEntities entities = .error fault ↔
      ∃ before entity rest flaw, entities = before ++ entity :: rest ∧
        (∀ other ∈ before, other.IsValid) ∧ (before.map EntityType.name).Nodup ∧
        entity.Refused (before.map EntityType.name) flaw ∧ fault = .schema flaw := by
  rw [ofEntities, foldlM_eq_error_iff]
  constructor
  · rintro ⟨before, entity, rest, model, hsplit, hbefore, hadd⟩
    obtain ⟨hvalid, hdistinct, hlists⟩ := ofEntities_eq_ok_iff.mp hbefore
    obtain ⟨flaw, hfault, hrefused⟩ := register_eq_error_iff.mp hadd
    rw [hlists.names_eq] at hrefused
    exact ⟨before, entity, rest, flaw, hsplit, hvalid, hdistinct, hrefused, hfault⟩
  · rintro ⟨before, entity, rest, flaw, hsplit, hvalid, hdistinct, hrefused, hfault⟩
    obtain ⟨model, hlists⟩ := exists_lists hdistinct
    rw [← hlists.names_eq] at hrefused
    exact ⟨before, entity, rest, model, hsplit,
      ofEntities_eq_ok_iff.mpr ⟨hvalid, hdistinct, hlists⟩,
      register_eq_error_iff.mpr ⟨flaw, hfault, hrefused⟩⟩

/-! ## All models -/

/--
Whatever is attempted, a model holds valid entities under different names, each stored and
found under its own: those that were accepted, in order.  Accepted is a valid entity whose
name is not taken, and a refused attempt leaves the model as it was.  A list of entities
becomes the model that lists them exactly if each would be accepted after those before it;
if not, the first that would be refused says why.
-/
theorem run_registers :
    (∀ attempts, Registers attempts (empty.run attempts) ∧
      (empty.run attempts).entities = empty.accepted attempts ∧
      ∀ name entity, (empty.run attempts).find? name = some entity ↔
        entity ∈ (empty.run attempts).entities ∧ entity.name = name) ∧
    (∀ (model : Model) (entity : EntityType),
      ((∃ stored next, (add entity).on model = (.ok stored, next)) ↔
        entity.IsValid ∧ entity.name ∉ model.names) ∧
      (∀ stored next, (add entity).on model = (.ok stored, next) → stored = entity ∧
        next.table.entries = model.table.entries ++ [(entity.name, entity)]) ∧
      ∀ fault next, (add entity).on model = (.error fault, next) → next = model) ∧
    ∀ entities,
      ((∃ model, ofEntities entities = .ok model) ↔
        (∀ entity ∈ entities, entity.validate = .ok ()) ∧
          (entities.map EntityType.name).Nodup) ∧
      (∀ model, ofEntities entities = .ok model → model.entities = entities ∧
        (∀ name entity, model.entity name = .ok entity ↔ entity ∈ entities ∧ entity.name = name) ∧
        ∀ name fault, model.entity name = .error fault ↔
          name ∉ entities.map EntityType.name ∧ fault = .schema (.unmappedEntity name)) ∧
      ∀ fault, ofEntities entities = .error fault ↔
        ∃ before entity rest flaw, entities = before ++ entity :: rest ∧
          (∀ other ∈ before, other.IsValid) ∧ (before.map EntityType.name).Nodup ∧
          entity.Refused (before.map EntityType.name) flaw ∧ fault = .schema flaw := by
  refine ⟨fun attempts => ?run, fun model entity => ?add,
    fun entities => ⟨?exact, ?listed, ?refused⟩⟩
  case run =>
    have h := registers_run attempts
    refine ⟨h, ?_, fun name entity => h.keyed.find?_eq_some_iff⟩
    rw [entities_run]
    rfl
  case add =>
    refine ⟨?_, fun stored next hadd => (on_add_eq_ok_iff.mp hadd).2.2,
      fun fault next hadd => (on_add_eq_error_iff.mp hadd).2⟩
    constructor
    · rintro ⟨stored, next, hadd⟩
      obtain ⟨hvalid, hname, -⟩ := on_add_eq_ok_iff.mp hadd
      exact ⟨hvalid, hname⟩
    · rintro ⟨hvalid, hname⟩
      obtain ⟨next, hadd, -⟩ := on_add_of_free hvalid hname
      exact ⟨entity, next, hadd⟩
  case exact =>
    simp only [ofEntities_eq_ok_iff, EntityType.validate_eq_ok_iff_isValid, exists_and_left]
    constructor
    · rintro ⟨hvalid, hdistinct, -⟩
      exact ⟨hvalid, hdistinct⟩
    · rintro ⟨hvalid, hdistinct⟩
      exact ⟨hvalid, hdistinct, exists_lists hdistinct⟩
  case listed =>
    intro model hmodel
    obtain ⟨-, -, hlists⟩ := ofEntities_eq_ok_iff.mp hmodel
    refine ⟨hlists.entities_eq, fun name entity => ?_, fun name fault => ?_⟩
    · rw [entity_eq_ok_iff, hlists.keyed.find?_eq_some_iff, hlists.entities_eq]
    · rw [entity_eq_error_iff, hlists.names_eq]
  case refused =>
    intro fault
    exact ofEntities_eq_error_iff

end Model

/-! ## Entities that are refused -/

namespace Customers

def withoutTable : EntityType :=
  { entity with name := "Untabled", table := " " }

def withRepetition : EntityType :=
  { entity with name := "Visit", properties := [.plain "Id" .int32, .plain "Id" .int64] }

def withTakenName : EntityType :=
  { entity with table := "Clients" }

end Customers

namespace Model

open Customers in
theorem run_registers_customers :
    (empty.run [withoutTable, Customers.entity, withRepetition, withTakenName]).find? "Customer" =
        some Customers.entity ∧
      (add withTakenName).on (empty.run [Customers.entity]) =
        (.error (.schema (.repeatedEntity "Customer")), empty.run [Customers.entity]) ∧
      ofEntities [Customers.entity, withRepetition, withoutTable] =
        .error (.schema (.repeatedProperty "Visit" "Id")) := by
  obtain ⟨hrun, hadd, hlist⟩ := run_registers
  have hcustomer : Customers.entity.IsValid := EntityType.validate_eq_ok_iff_isValid.mp rfl
  refine ⟨?_, ?_, ?_⟩
  · obtain ⟨-, hentities, hfind⟩ :=
      hrun [withoutTable, Customers.entity, withRepetition, withTakenName]
    have haccepted : empty.accepted
        [withoutTable, Customers.entity, withRepetition, withTakenName] = [Customers.entity] := rfl
    rw [hfind, hentities, haccepted]
    exact ⟨List.mem_singleton.mpr rfl, rfl⟩
  · have hnext := (hadd (empty.run [Customers.entity]) withTakenName).2.2 _ _ rfl
    exact Prod.ext rfl hnext
  · obtain ⟨_, ⟨⟩, hflaw⟩ :=
      EntityType.validate_eq_error_iff.mp (Eq.refl withRepetition.validate)
    exact ((hlist _).2.2 _).mpr ⟨[Customers.entity], withRepetition, [withoutTable], _, rfl,
      List.forall_mem_singleton.mpr hcustomer, List.nodup_singleton _, .flawed hflaw, rfl⟩

end Model

end QueryBinding
