/-!
# Ordered maps

Finite maps that remember the order in which their keys came in.  Inserting at a
present key replaces its value and keeps its place, a new key goes to the end,
and erasing a key closes the gap.  Two maps agree when they hold the same values
at the same keys, whatever the order.
-/

namespace QueryBinding

/-- Entries in insertion order, no key twice. -/
structure OrderedMap (κ : Type) (α : Type) where
  entries : List (κ × α)
  nodup_keys : (entries.map Prod.fst).Nodup
  deriving DecidableEq, Repr

namespace OrderedMap

variable {κ α β : Type}

/-! ## Entry lists -/

section Entries

variable [DecidableEq κ]

def findEntry (key : κ) : List (κ × α) → Option α
  | [] => none
  | (k, v) :: rest => if k = key then some v else findEntry key rest

/-- Replace the value at a present key in place, or append a new entry. -/
def putEntry (key : κ) (value : α) : List (κ × α) → List (κ × α)
  | [] => [(key, value)]
  | (k, v) :: rest => if k = key then (k, value) :: rest else (k, v) :: putEntry key value rest

def dropEntry (key : κ) (entries : List (κ × α)) : List (κ × α) :=
  entries.filter fun entry => entry.1 ≠ key

def takeEntry (key : κ) : List (κ × α) → Option α × List (κ × α)
  | [] => (none, [])
  | (k, v) :: rest =>
      if k = key then (some v, rest)
      else
        let (found, others) := takeEntry key rest
        (found, (k, v) :: others)

theorem mem_keys_putEntry {key k : κ} {value : α} {entries : List (κ × α)} :
    k ∈ (putEntry key value entries).map Prod.fst ↔
      k = key ∨ k ∈ entries.map Prod.fst := by
  induction entries with
  | nil => simp [putEntry]
  | cons entry rest ih =>
      obtain ⟨k', v'⟩ := entry
      by_cases h : k' = key
      · subst h
        simp only [putEntry, if_true, List.map_cons, List.mem_cons]
        exact ⟨fun hk => .inr hk, fun hk => hk.elim .inl id⟩
      · simp only [putEntry, if_neg h, List.map_cons, List.mem_cons, ih]
        exact ⟨fun hk => hk.elim (.inr ∘ .inl) (·.elim .inl (.inr ∘ .inr)),
          fun hk => hk.elim (.inr ∘ .inl) (·.elim .inl (.inr ∘ .inr))⟩

theorem nodup_keys_putEntry {key : κ} {value : α} {entries : List (κ × α)}
    (h : (entries.map Prod.fst).Nodup) :
    ((putEntry key value entries).map Prod.fst).Nodup := by
  induction entries with
  | nil => simp [putEntry]
  | cons entry rest ih =>
      obtain ⟨k, v⟩ := entry
      rw [List.map_cons, List.nodup_cons] at h
      by_cases hk : k = key
      · simp only [putEntry, if_pos hk, List.map_cons, List.nodup_cons]
        exact h
      · simp only [putEntry, if_neg hk, List.map_cons, List.nodup_cons]
        exact ⟨fun hm => (mem_keys_putEntry.1 hm).elim hk h.1, ih h.2⟩

theorem nodup_keys_dropEntry {key : κ} {entries : List (κ × α)}
    (h : (entries.map Prod.fst).Nodup) :
    ((dropEntry key entries).map Prod.fst).Nodup :=
  h.sublist (List.filter_sublist.map Prod.fst)

theorem findEntry_putEntry {key k : κ} {value : α} {entries : List (κ × α)} :
    findEntry k (putEntry key value entries) =
      if key = k then some value else findEntry k entries := by
  induction entries with
  | nil => simp [putEntry, findEntry]
  | cons entry rest ih =>
      obtain ⟨k', v'⟩ := entry
      by_cases h : k' = key
      · subst h
        by_cases hk : k' = k <;> simp [putEntry, findEntry, hk]
      · by_cases hk : k' = k
        · subst hk
          simp [putEntry, findEntry, h, Ne.symm h]
        · simp [putEntry, findEntry, h, hk, ih]

theorem findEntry_dropEntry {key k : κ} {entries : List (κ × α)} :
    findEntry k (dropEntry key entries) = if key = k then none else findEntry k entries := by
  induction entries with
  | nil => simp [dropEntry, findEntry]
  | cons entry rest ih =>
      obtain ⟨k', v'⟩ := entry
      unfold dropEntry at ih ⊢
      by_cases h : k' = key
      · subst h
        rw [List.filter_cons_of_neg (by simp), ih]
        by_cases hk : k' = k <;> simp [findEntry, hk]
      · rw [List.filter_cons_of_pos (by simpa using h)]
        by_cases hk : k' = k
        · subst hk
          simp [findEntry, Ne.symm h]
        · rw [findEntry, if_neg hk, ih, findEntry, if_neg hk]

theorem dropEntry_of_notMem {key : κ} {entries : List (κ × α)}
    (h : key ∉ entries.map Prod.fst) : dropEntry key entries = entries := by
  refine List.filter_eq_self.2 fun entry hentry => ?_
  have hne : entry.1 ≠ key := fun heq => h (heq ▸ List.mem_map_of_mem hentry)
  simpa using hne

/-- Where no key stands twice, taking one entry leaves none of its key. -/
theorem takeEntry_eq {key : κ} {entries : List (κ × α)} (h : (entries.map Prod.fst).Nodup) :
    takeEntry key entries = (findEntry key entries, dropEntry key entries) := by
  induction entries with
  | nil => rfl
  | cons entry rest ih =>
      obtain ⟨k, v⟩ := entry
      rw [List.map_cons, List.nodup_cons] at h
      by_cases hk : k = key
      · subst hk
        have hrest : dropEntry k ((k, v) :: rest) = dropEntry k rest :=
          List.filter_cons_of_neg (by simp)
        rw [takeEntry, if_pos rfl, findEntry, if_pos rfl, hrest, dropEntry_of_notMem h.1]
      · have hrest : dropEntry key ((k, v) :: rest) = (k, v) :: dropEntry key rest :=
          List.filter_cons_of_pos (by simpa using hk)
        rw [takeEntry, if_neg hk, ih h.2, findEntry, if_neg hk, hrest]

theorem findEntry_isSome_iff {key : κ} {entries : List (κ × α)} :
    (findEntry key entries).isSome ↔ key ∈ entries.map Prod.fst := by
  induction entries with
  | nil => simp [findEntry]
  | cons entry rest ih =>
      obtain ⟨k, v⟩ := entry
      by_cases h : k = key
      · simp [findEntry, h]
      · simp [findEntry, h, Ne.symm h, ih]

theorem mem_of_findEntry {key : κ} {value : α} {entries : List (κ × α)}
    (h : findEntry key entries = some value) : (key, value) ∈ entries := by
  induction entries with
  | nil => simp [findEntry] at h
  | cons entry rest ih =>
      obtain ⟨k, v⟩ := entry
      by_cases hk : k = key
      · simp only [findEntry, if_pos hk, Option.some.injEq] at h
        simp [hk, h]
      · simp only [findEntry, if_neg hk] at h
        exact List.mem_cons_of_mem _ (ih h)

theorem findEntry_of_mem {key : κ} {value : α} {entries : List (κ × α)}
    (hn : (entries.map Prod.fst).Nodup) (h : (key, value) ∈ entries) :
    findEntry key entries = some value := by
  induction entries with
  | nil => simp at h
  | cons entry rest ih =>
      obtain ⟨k, v⟩ := entry
      rw [List.map_cons, List.nodup_cons] at hn
      rcases List.mem_cons.1 h with heq | hrest
      · obtain ⟨rfl, rfl⟩ := Prod.mk.inj heq
        simp [findEntry]
      · have hk : k ≠ key := by
          intro heq
          subst heq
          exact hn.1 (List.mem_map.2 ⟨_, hrest, rfl⟩)
        simp only [findEntry, if_neg hk]
        exact ih hn.2 hrest

end Entries

/-! ## Maps -/

def empty : OrderedMap κ α :=
  ⟨[], List.nodup_nil⟩

instance : Inhabited (OrderedMap κ α) := ⟨empty⟩

def size (m : OrderedMap κ α) : Nat :=
  m.entries.length

def isEmpty (m : OrderedMap κ α) : Bool :=
  m.entries.isEmpty

def keys (m : OrderedMap κ α) : List κ :=
  m.entries.map Prod.fst

def values (m : OrderedMap κ α) : List α :=
  m.entries.map Prod.snd

variable [DecidableEq κ]

def find? (m : OrderedMap κ α) (key : κ) : Option α :=
  findEntry key m.entries

def insert (m : OrderedMap κ α) (key : κ) (value : α) : OrderedMap κ α :=
  ⟨putEntry key value m.entries, nodup_keys_putEntry m.nodup_keys⟩

def erase (m : OrderedMap κ α) (key : κ) : OrderedMap κ α :=
  ⟨dropEntry key m.entries, nodup_keys_dropEntry m.nodup_keys⟩

def remove (m : OrderedMap κ α) (key : κ) : Option α × OrderedMap κ α :=
  let taken := takeEntry key m.entries
  have hrest : taken.2 = dropEntry key m.entries := congrArg Prod.snd (takeEntry_eq m.nodup_keys)
  (taken.1, ⟨taken.2, hrest ▸ nodup_keys_dropEntry m.nodup_keys⟩)

def insertAll (m : OrderedMap κ α) (entries : List (κ × α)) : OrderedMap κ α :=
  entries.foldl (fun m entry => m.insert entry.1 entry.2) m

def ofList (entries : List (κ × α)) : OrderedMap κ α :=
  empty.insertAll entries

/-- Whether two maps hold values that `same` accepts at the same keys, in any order. -/
def agree (same : α → α → Bool) (m n : OrderedMap κ α) : Bool :=
  m.size == n.size && m.entries.all fun entry =>
    match n.find? entry.1 with
    | some value => same entry.2 value
    | none => false

/-! ## What an operation does to look-up and order -/

@[simp] theorem find?_empty (key : κ) : (empty : OrderedMap κ α).find? key = none :=
  rfl

@[simp] theorem find?_insert (m : OrderedMap κ α) (key k : κ) (value : α) :
    (m.insert key value).find? k = if key = k then some value else m.find? k :=
  findEntry_putEntry

@[simp] theorem find?_erase (m : OrderedMap κ α) (key k : κ) :
    (m.erase key).find? k = if key = k then none else m.find? k :=
  findEntry_dropEntry

theorem remove_eq (m : OrderedMap κ α) (key : κ) : m.remove key = (m.find? key, m.erase key) := by
  simp only [remove, takeEntry_eq m.nodup_keys]
  rfl

theorem find?_eq_some_iff (m : OrderedMap κ α) (key : κ) (value : α) :
    m.find? key = some value ↔ (key, value) ∈ m.entries :=
  ⟨mem_of_findEntry, findEntry_of_mem m.nodup_keys⟩

theorem find?_isSome_iff (m : OrderedMap κ α) (key : κ) :
    (m.find? key).isSome ↔ key ∈ m.keys :=
  findEntry_isSome_iff

end OrderedMap

end QueryBinding
