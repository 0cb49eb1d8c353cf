import Mathlib.Data.List.Perm.Subperm
import QueryBinding.Proofs.Columns

/-!
# Agreeing projections

Two maps agree when every look-up in them does, whatever the order of their entries.
For the projections of selects this is the equality that the library decides.  Where
projected entities have the columns of their properties, two selects with equal
projection mappings bind every property alike.
-/

namespace QueryBinding

/-! ## Maps -/

namespace OrderedMap

variable {κ α : Type} {same : α → α → Bool} {m n : OrderedMap κ α} {key : κ}

theorem size_eq_of_keys (h : ∀ key, key ∈ m.keys ↔ key ∈ n.keys) : m.size = n.size := by
  have hperm : m.keys.Perm n.keys := (List.perm_ext_iff_of_nodup m.nodup_keys n.nodup_keys).mpr h
  have hlength : m.keys.length = n.keys.length := hperm.length_eq
  simpa [keys, size] using hlength

theorem mem_keys_of_size_eq (hsize : m.size = n.size) (h : ∀ key ∈ m.keys, key ∈ n.keys)
    (hkey : key ∈ n.keys) : key ∈ m.keys := by
  have hsubperm : m.keys.Subperm n.keys := m.nodup_keys.subperm h
  have hlength : n.keys.length ≤ m.keys.length := by
    simpa [keys, size] using Nat.le_of_eq hsize.symm
  have hperm : m.keys.Perm n.keys := hsubperm.perm_of_length_le hlength
  exact hperm.mem_iff.mpr hkey

variable [DecidableEq κ]

theorem find?_eq_none_iff : m.find? key = none ↔ key ∉ m.keys := by
  rw [← find?_isSome_iff, Option.not_isSome_iff_eq_none]

theorem agree_eq_true_iff :
    m.agree same n = true ↔ m.size = n.size ∧
      ∀ key value, m.find? key = some value →
        ∃ other, n.find? key = some other ∧ same value other = true := by
  simp only [agree, Bool.and_eq_true, beq_iff_eq, List.all_eq_true, Prod.forall,
    ← find?_eq_some_iff]
  apply and_congr_right
  intro _
  refine forall_congr' fun key => forall_congr' fun value => imp_congr_right fun _ => ?_
  cases n.find? key <;> simp

theorem agree_iff :
    m.agree same n = true ↔
      ∀ key, Option.Rel (fun value other => same value other = true) (m.find? key)
        (n.find? key) := by
  rw [agree_eq_true_iff]
  constructor
  · rintro ⟨hsize, hfound⟩ key
    have hkeys : ∀ key ∈ m.keys, key ∈ n.keys := by
      intro key hkey
      obtain ⟨value, hvalue⟩ := Option.isSome_iff_exists.mp ((m.find?_isSome_iff key).mpr hkey)
      obtain ⟨other, hother, -⟩ := hfound key value hvalue
      exact (n.find?_isSome_iff key).mp (by simp [hother])
    cases hm : m.find? key with
    | some value =>
        obtain ⟨other, hother, hsame⟩ := hfound key value hm
        rw [hother]
        exact .some hsame
    | none =>
        have hnone : n.find? key = none := by
          rw [find?_eq_none_iff] at hm ⊢
          intro hkey
          exact hm (mem_keys_of_size_eq hsize hkeys hkey)
        rw [hnone]
        exact .none
  · intro h
    have hfound : ∀ key, (m.find? key).isSome = (n.find? key).isSome := by
      intro key
      have hkey := h key
      generalize m.find? key = x, n.find? key = y at hkey ⊢
      cases hkey <;> rfl
    constructor
    · apply size_eq_of_keys
      intro key
      rw [← find?_isSome_iff, ← find?_isSome_iff, hfound]
    · intro key value hvalue
      have hkey := h key
      rw [hvalue] at hkey
      generalize n.find? key = x at hkey ⊢
      cases hkey with
      | some hsame => exact ⟨_, rfl, hsame⟩

end OrderedMap

/-! ## Projected items -/

inductive ProjectedItem.Alike : ProjectedItem → ProjectedItem → Prop
  | entity {p q : EntityProjection} (hentity : p.entity = q.entity)
      (hcolumns : ∀ name, p.columns.find? name = q.columns.find? name) :
      Alike (.entity p) (.entity q)
  | scalar (s s' : Scalar) : Alike (.scalar s) (.scalar s')

/-- At each position both mappings have alike items, or none. -/
def ProjectionMapping.Alike (m n : ProjectionMapping) : Prop :=
  ∀ path, Option.Rel ProjectedItem.Alike (m.find? path) (n.find? path)

theorem ProjectionMapping.Alike.refl (m : ProjectionMapping) : m.Alike m := by
  intro path
  cases m.find? path with
  | none => exact .none
  | some item =>
      cases item with
      | entity projection => exact .some (.entity rfl fun _ => rfl)
      | scalar s => exact .some (.scalar s s)

theorem Scalar.eq_of_equal_column {c d : Column} {mapping other : Option TypeMapping}
    (h : (Scalar.value (.column c) mapping).equal (.value (.column d) other) = true) :
    Scalar.value (.column c) mapping = .value (.column d) other := by
  simp only [Scalar.equal, Scalar.value, Expr.equal, Bool.and_eq_true, beq_iff_eq] at h
  obtain ⟨⟨rfl, rfl⟩, -⟩ := h
  rfl

/-- Equality is exact on columns of properties, since no constants occur in them. -/
theorem EntityProjection.BuiltWith.find?_columns_eq {p q : EntityProjection}
    {source source' : MappingSource} (hp : p.BuiltWith source) (hq : q.BuiltWith source')
    (h : p.columns.agree Scalar.equal q.columns = true) (name : String) :
    p.columns.find? name = q.columns.find? name := by
  have hname := OrderedMap.agree_iff.mp h name
  generalize hcolumn : p.columns.find? name = x, hother : q.columns.find? name = y at hname ⊢
  cases hname with
  | none => rfl
  | some hsame =>
      obtain ⟨_, _, -, -, rfl⟩ := (hp.find?_columns name _).mp hcolumn
      obtain ⟨_, _, -, -, rfl⟩ := (hq.find?_columns name _).mp hother
      rw [Scalar.eq_of_equal_column hsame]

namespace Select

variable {select select' : Select}

theorem alike_of_equal (hbuilt : select.Built) (hbuilt' : select'.Built)
    (h : select.mapping.equal select'.mapping = true) : select.mapping.Alike select'.mapping := by
  intro path
  have hpath := OrderedMap.agree_iff.mp h path
  generalize hitem : select.mapping.find? path = x, hitem' : select'.mapping.find? path = y
    at hpath ⊢
  cases hpath with
  | none => exact .none
  | @some item item' hsame =>
      cases item with
      | scalar s =>
          cases item' with
          | scalar s' => exact .some (.scalar s s')
          | entity => cases hsame
      | entity p =>
          cases item' with
          | scalar => cases hsame
          | entity q =>
              simp only [ProjectedItem.equal, EntityProjection.equal, Bool.and_eq_true,
                beq_iff_eq] at hsame
              obtain ⟨⟨hentity, -⟩, hcolumns⟩ := hsame
              obtain ⟨source, hp⟩ := hbuilt path p hitem
              obtain ⟨source', hq⟩ := hbuilt' path q hitem'
              exact .some (.entity hentity (hp.find?_columns_eq hq hcolumns))

theorem bindProperty_congr (h : select.mapping.Alike select'.mapping) (placeholder : Expr)
    (property : Property) :
    select'.bindProperty placeholder property = select.bindProperty placeholder property := by
  cases placeholder with
  | projected path type =>
      have hpath := h path
      simp only [bindProperty, item?]
      generalize select.mapping.find? path = x, select'.mapping.find? path = y at hpath ⊢
      cases hpath with
      | none => rfl
      | some halike =>
          cases halike with
          | entity hentity hcolumns =>
              simp only [EntityProjection.column, hentity, hcolumns]
          | scalar => rfl
  | _ => rfl

end Select

end QueryBinding
