import QueryBinding.Proofs.Columns
import QueryBinding.Proofs.Names

/-!
# Valid entities

What `validate` asks of an entity, said without the order in which it looks, and the one
flaw that it reports of an entity that has several.
-/

namespace QueryBinding

theorem firstRepeated?_append {seen before : List String} (hnodup : before.Nodup)
    (hnew : ∀ name ∈ before, name ∉ seen) (rest : List String) :
    EntityType.firstRepeated? seen (before ++ rest) =
      EntityType.firstRepeated? (before.reverse ++ seen) rest := by
  induction before generalizing seen with
  | nil => rfl
  | cons first before ih =>
      obtain ⟨hfirst, hnodup⟩ := List.nodup_cons.mp hnodup
      obtain ⟨hseen, hnew⟩ := List.forall_mem_cons.mp hnew
      have hnew' : ∀ name ∈ before, name ∉ first :: seen := by
        intro name hname h
        rcases List.mem_cons.mp h with rfl | h
        · exact hfirst hname
        · exact hnew name hname h
      rw [List.cons_append, EntityType.firstRepeated?, if_neg hseen, ih hnodup hnew',
        List.reverse_cons, List.append_assoc]
      rfl

theorem exists_of_firstRepeated? {seen names : List String} {name : String}
    (h : EntityType.firstRepeated? seen names = some name) :
    ∃ before rest, names = before ++ name :: rest ∧ before.Nodup ∧
      (∀ other ∈ before, other ∉ seen) ∧ (name ∈ before ∨ name ∈ seen) := by
  induction names generalizing seen with
  | nil => cases h
  | cons first names ih =>
      by_cases hseen : first ∈ seen
      · rw [EntityType.firstRepeated?, if_pos hseen, Option.some.injEq] at h
        subst h
        exact ⟨[], names, rfl, List.nodup_nil, by simp, .inr hseen⟩
      · rw [EntityType.firstRepeated?, if_neg hseen] at h
        obtain ⟨before, rest, rfl, hnodup, hnew, hname⟩ := ih h
        simp only [List.mem_cons, not_or] at hnew hname
        refine ⟨first :: before, rest, rfl, ?_, ?_, ?_⟩
        · exact List.nodup_cons.mpr ⟨fun hmem => (hnew first hmem).1 rfl, hnodup⟩
        · exact List.forall_mem_cons.mpr ⟨hseen, fun other hother => (hnew other hother).2⟩
        · rw [List.mem_cons]
          tauto

theorem firstRepeated?_nil_eq_some_iff {names : List String} {name : String} :
    EntityType.firstRepeated? [] names = some name ↔
      ∃ before rest, names = before ++ name :: rest ∧ before.Nodup ∧ name ∈ before := by
  constructor
  · intro h
    obtain ⟨before, rest, hsplit, hnodup, -, hname⟩ := exists_of_firstRepeated? h
    exact ⟨before, rest, hsplit, hnodup, hname.resolve_right List.not_mem_nil⟩
  · rintro ⟨before, rest, rfl, hnodup, hname⟩
    rw [firstRepeated?_append hnodup fun _ _ => List.not_mem_nil, EntityType.firstRepeated?,
      if_pos (by simpa using hname)]

namespace EntityType

variable {entity : EntityType} {fault : Fault}

structure IsValid (entity : EntityType) : Prop where
  table : ∃ c ∈ entity.table.toList, Text.isBlank c = false
  properties : entity.properties ≠ []
  names : (entity.properties.map Property.name).Nodup

/-- Of what an entity lacks, the first thing in the order in which it is asked for. -/
inductive HasFlaw (entity : EntityType) : SchemaFlaw → Prop
  | noTable (htable : ∀ c ∈ entity.table.toList, Text.isBlank c = true) :
      HasFlaw entity (.noTable entity.name)
  | noProperties (htable : ∃ c ∈ entity.table.toList, Text.isBlank c = false)
      (hproperties : entity.properties = []) : HasFlaw entity (.noProperties entity.name)
  | repeatedProperty (htable : ∃ c ∈ entity.table.toList, Text.isBlank c = false)
      {before rest : List Property} {property : Property}
      (hsplit : entity.properties = before ++ property :: rest)
      (hbefore : (before.map Property.name).Nodup)
      (hrepeated : property.name ∈ before.map Property.name) :
      HasFlaw entity (.repeatedProperty entity.name property.name)

theorem trim_table_ne_empty_iff :
    Text.trim entity.table ≠ "" ↔ ∃ c ∈ entity.table.toList, Text.isBlank c = false := by
  rw [Ne, Text.trim_eq_empty_iff]
  push Not
  simp

theorem validate_eq_ok_iff_isValid : entity.validate = .ok () ↔ entity.IsValid := by
  rw [validate_eq_ok_iff, trim_table_ne_empty_iff]
  exact ⟨fun ⟨htable, hproperties, hnames⟩ => ⟨htable, hproperties, hnames⟩,
    fun h => ⟨h.table, h.properties, h.names⟩⟩

theorem hasFlaw_of_validate (h : entity.validate = .error fault) :
    ∃ flaw, fault = .schema flaw ∧ entity.HasFlaw flaw := by
  unfold validate at h
  split at h
  · next htable =>
      cases h
      exact ⟨_, rfl, .noTable (Text.trim_eq_empty_iff.mp htable)⟩
  · next htable =>
      have htable := trim_table_ne_empty_iff.mp htable
      split at h
      · next hproperties =>
          cases h
          exact ⟨_, rfl, .noProperties htable (List.isEmpty_iff.mp hproperties)⟩
      · split at h
        · next name hrepeated =>
            cases h
            obtain ⟨front, back, hsplit, hnodup, hmem⟩ :=
              firstRepeated?_nil_eq_some_iff.mp hrepeated
            obtain ⟨before, others, hproperties, rfl, hothers⟩ := List.map_eq_append_iff.mp hsplit
            obtain ⟨property, rest, rfl, rfl, -⟩ := List.map_eq_cons_iff.mp hothers
            exact ⟨_, rfl, .repeatedProperty htable hproperties hnodup hmem⟩
        · cases h

theorem validate_of_hasFlaw {flaw : SchemaFlaw} (h : entity.HasFlaw flaw) :
    entity.validate = .error (.schema flaw) := by
  unfold validate
  cases h with
  | noTable htable => rw [if_pos (Text.trim_eq_empty_iff.mpr htable)]
  | noProperties htable hproperties =>
      rw [if_neg (trim_table_ne_empty_iff.mpr htable), if_pos (by simp [hproperties])]
  | @repeatedProperty htable before rest property hsplit hbefore hrepeated =>
      have hfirst : firstRepeated? [] (entity.properties.map Property.name) =
          some property.name := by
        rw [firstRepeated?_nil_eq_some_iff, hsplit, List.map_append, List.map_cons]
        exact ⟨_, _, rfl, hbefore, hrepeated⟩
      rw [if_neg (trim_table_ne_empty_iff.mpr htable), if_neg (by simp [hsplit]), hfirst]

theorem validate_eq_error_iff :
    entity.validate = .error fault ↔ ∃ flaw, fault = .schema flaw ∧ entity.HasFlaw flaw := by
  constructor
  · exact hasFlaw_of_validate
  · rintro ⟨flaw, rfl, hflaw⟩
    exact validate_of_hasFlaw hflaw

end EntityType

end QueryBinding
