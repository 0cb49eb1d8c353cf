import QueryBinding.Codec.Schema

/-!
# Written documents

The records, lists and tagged values that are written are read field by field, item by
item and by their tag, as long as the brackets of the document may be opened.
-/

namespace QueryBinding.Document

/-! ## Brackets -/

mutual

def nesting : Document → Nat
  | .list items => nestingAll items + 1
  | .record fields => nestingFields fields + 1
  | .null | .bool _ | .integer _ | .real _ | .text _ | .unreadable => 0

def nestingAll : List Document → Nat
  | [] => 0
  | d :: rest => max d.nesting (nestingAll rest)

def nestingFields : List (String × Document) → Nat
  | [] => 0
  | field :: rest => max (nestingField field) (nestingFields rest)

def nestingField : String × Document → Nat
  | (_, d) => d.nesting

end

theorem nestingField_eq (field : String × Document) : nestingField field = field.2.nesting := by
  cases field
  rfl

theorem nestingAll_le_iff {items : List Document} {depth : Nat} :
    nestingAll items ≤ depth ↔ ∀ d ∈ items, d.nesting ≤ depth := by
  induction items with
  | nil => simp [nestingAll]
  | cons d rest ih => rw [nestingAll, Nat.max_le, ih, List.forall_mem_cons]

theorem nestingFields_le_iff {fields : List (String × Document)} {depth : Nat} :
    nestingFields fields ≤ depth ↔ ∀ field ∈ fields, field.2.nesting ≤ depth := by
  induction fields with
  | nil => simp [nestingFields]
  | cons field rest ih => rw [nestingFields, nestingField_eq, Nat.max_le, ih, List.forall_mem_cons]

variable {limits : Limits} {depth : Nat} {allowExcess : Bool}

@[simp] theorem opened?_succ :
    Limits.opened? ⟨depth + 1, allowExcess⟩ = some ⟨depth, allowExcess⟩ :=
  rfl

theorem succ_le_iff_exists {n : Nat} :
    n + 1 ≤ depth ↔ ∃ inner, depth = inner + 1 ∧ n ≤ inner := by
  cases depth <;> simp

theorem nesting_list_le_iff {items : List Document} :
    (list items).nesting ≤ depth ↔
      ∃ inner, depth = inner + 1 ∧ ∀ d ∈ items, d.nesting ≤ inner := by
  simp only [nesting, succ_le_iff_exists, nestingAll_le_iff]

theorem nesting_record_le_iff {fields : List (String × Document)} :
    (record fields).nesting ≤ depth ↔
      ∃ inner, depth = inner + 1 ∧ ∀ field ∈ fields, field.2.nesting ≤ inner := by
  simp only [nesting, succ_le_iff_exists, nestingFields_le_iff]

theorem limits_of_nesting_record {fields : List (String × Document)}
    (h : (record fields).nesting ≤ limits.depth) :
    ∃ inner allowExcess, limits = ⟨inner + 1, allowExcess⟩ ∧
      ∀ field ∈ fields, field.2.nesting ≤ inner := by
  obtain ⟨depth, allowExcess⟩ := limits
  obtain ⟨inner, rfl, hfields⟩ := nesting_record_le_iff.mp h
  exact ⟨inner, allowExcess, rfl, hfields⟩

/-! ## Lists -/

theorem mapM_map_eq_some {α β γ : Type} {read : β → Option γ} {write : α → β} {g : α → γ}
    {xs : List α} (h : ∀ x ∈ xs, read (write x) = some (g x)) :
    (xs.map write).mapM read = some (xs.map g) := by
  induction xs with
  | nil => rfl
  | cons x rest ih =>
      have hx := h x List.mem_cons_self
      have hrest := ih fun y hy => h y (List.mem_cons_of_mem x hy)
      simp [List.mapM_cons, hx, hrest]

theorem readList_map {α β : Type} {read : Limits → Document → Option β} {write : α → Document}
    {g : α → β} {xs : List α} (h : (list (xs.map write)).nesting ≤ limits.depth)
    (hread : ∀ x ∈ xs, ∀ limits : Limits, (write x).nesting ≤ limits.depth →
      read limits (write x) = some (g x)) :
    readList read limits (.list (xs.map write)) = some (xs.map g) := by
  obtain ⟨depth, allowExcess⟩ := limits
  obtain ⟨inner, rfl, hitems⟩ := nesting_list_le_iff.mp h
  rw [readList, opened?_succ]
  refine mapM_map_eq_some fun x hx => hread x hx _ ?_
  exact hitems _ (List.mem_map_of_mem hx)

/-! ## Records -/

theorem field?_of_mem {fields : List (String × Document)} {name : String} {d : Document}
    (hnodup : (fields.map Prod.fst).Nodup) (h : (name, d) ∈ fields) (presence : Presence) :
    field? fields name presence = some (some d) := by
  have hfilter : fields.filter (fun field => field.1 == name) = [(name, d)] := by
    induction fields with
    | nil => cases h
    | cons field rest ih =>
        rw [List.map_cons, List.nodup_cons] at hnodup
        rcases List.mem_cons.mp h with rfl | hrest
        · have hnone : rest.filter (fun field => field.1 == name) = [] := by
            simp only [List.filter_eq_nil_iff, beq_iff_eq]
            rintro other hother rfl
            exact hnodup.1 (List.mem_map.mpr ⟨other, hother, rfl⟩)
          simp [hnone]
        · have hne : field.1 ≠ name := by
            rintro rfl
            exact hnodup.1 (List.mem_map.mpr ⟨_, hrest, rfl⟩)
          simp [hne, ih hnodup.2 hrest]
  rw [field?, hfilter]

theorem mapM_field? {fields rest : List (String × Document)} {specs : List (String × Presence)}
    (hnodup : (fields.map Prod.fst).Nodup) (hrest : ∀ field ∈ rest, field ∈ fields)
    (hnames : rest.map Prod.fst = specs.map Prod.fst) :
    (specs.mapM fun (name, presence) => field? fields name presence) =
      some (rest.map fun field => some field.2) := by
  induction specs generalizing rest with
  | nil =>
      obtain rfl : rest = [] := by simpa using hnames
      rfl
  | cons spec specs ih =>
      cases rest with
      | nil => cases hnames
      | cons field rest =>
          obtain ⟨name, presence⟩ := spec
          obtain ⟨written, d⟩ := field
          simp only [List.map_cons, List.cons.injEq] at hnames
          obtain ⟨rfl, hnames⟩ := hnames
          obtain ⟨hfield, hrest⟩ := List.forall_mem_cons.mp hrest
          have hread := field?_of_mem hnodup hfield presence
          simp [List.mapM_cons, hread, ih hrest hnames]

@[simp] theorem fields?_record {specs : List (String × Presence)}
    {fields : List (String × Document)} (hnames : fields.map Prod.fst = specs.map Prod.fst)
    (hnodup : (specs.map Prod.fst).Nodup) :
    fields? ⟨depth + 1, allowExcess⟩ specs (.record fields) =
      some (⟨depth, allowExcess⟩, fields.map fun field => some field.2) := by
  rw [← hnames] at hnodup
  have hread := mapM_field? hnodup (fun _ hfield => hfield) hnames
  simp [fields?, hread]

@[simp] theorem tagged?_record {tag : String} {content : Document} :
    tagged? ⟨depth + 1, allowExcess⟩ (.record [(tag, content)]) =
      some (⟨depth, allowExcess⟩, tag, some content) :=
  rfl

/-! ## Optional parts -/

theorem nullable_of_ne_null {α : Type} {read : Document → Option α} {d : Document}
    (h : d ≠ .null) : nullable read (some d) = (read d).map some := by
  cases d <;> first | rfl | exact absurd rfl h

@[simp] theorem nullable_optionalText (s : Option String) :
    nullable asText? (some (optionalText s)) = some s := by
  cases s <;> rfl

end QueryBinding.Document
