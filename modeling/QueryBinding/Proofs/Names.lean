import Mathlib.Data.List.DropRight
import Mathlib.Data.Set.Function
import QueryBinding.HostType

/-!
# Names of host types

Printing a host type and reading the name gives the canonical form of the type.  Types
that a name denotes are canonical already, so a second reading changes nothing.  Users
choose the names of entities and of other types freely, so a name can be trimmed when it
is read, or mean something else; the types that come back from their names are those of
which neither is true.
-/

namespace QueryBinding

/-! ## Texts without blanks at their ends -/

namespace Text

theorem trimLeft_trimRight_trimLeft (cs : List Char) :
    trimLeft (trimRight (trimLeft cs)) = trimRight (trimLeft cs) := by
  have hprefix : trimRight (trimLeft cs) <+: trimLeft cs := List.rdropWhile_prefix isBlank _
  have hleft : trimLeft (trimLeft cs) = trimLeft cs := List.dropWhile_idempotent isBlank cs
  obtain ⟨blanks, hblanks⟩ := hprefix
  cases htrimmed : trimRight (trimLeft cs) with
  | nil => rfl
  | cons c rest =>
      rw [htrimmed] at hblanks
      rw [← hblanks] at hleft
      have hhead := List.dropWhile_eq_self_iff.mp hleft (by simp)
      have hc : isBlank c = false := by simpa using hhead
      exact trimLeft_cons hc rest

theorem trim_trim (s : String) : trim (trim s) = trim s := by
  have hright : ∀ cs, trimRight (trimRight cs) = trimRight cs :=
    List.rdropWhile_idempotent isBlank
  simp only [trim, String.toList_ofList, trimLeft_trimRight_trimLeft, hright]

theorem trim_eq_empty_iff {s : String} : trim s = "" ↔ ∀ c ∈ s.toList, isBlank c = true := by
  have hlist : trim s = "" ↔ trimRight (trimLeft s.toList) = [] := by
    rw [trim, ← String.toList_inj, String.toList_ofList, String.toList_empty]
  have hright : trimRight (trimLeft s.toList) = [] ↔ ∀ c ∈ trimLeft s.toList, isBlank c = true :=
    List.rdropWhile_eq_nil_iff
  rw [hlist, hright]
  constructor
  · intro h c hc
    rw [← List.takeWhile_append_dropWhile (p := isBlank) (l := s.toList), List.mem_append] at hc
    exact hc.elim List.mem_takeWhile_imp (h c)
  · intro h c hc
    exact h c ((List.dropWhile_sublist _).subset hc)

def startsBlank (s : String) : Bool :=
  s.toList.head?.any isBlank

def endsBlank (s : String) : Bool :=
  s.toList.getLast?.any isBlank

theorem trimLeft_eq_self_iff {cs : List Char} :
    trimLeft cs = cs ↔ cs.head?.any isBlank = false := by
  cases cs with
  | nil => simp [trimLeft]
  | cons c rest => simp [trimLeft, List.dropWhile_eq_self_iff]

theorem trimRight_eq_self_iff {cs : List Char} :
    trimRight cs = cs ↔ cs.getLast?.any isBlank = false := by
  have hright : trimRight cs = cs ↔ ∀ h : cs ≠ [], ¬ isBlank (cs.getLast h) = true :=
    List.rdropWhile_eq_self_iff
  rw [hright]
  by_cases hcs : cs = []
  · simp [hcs]
  · simp [List.getLast?_eq_some_getLast hcs, hcs]

theorem trim_eq_self_iff {s : String} :
    trim s = s ↔ startsBlank s = false ∧ endsBlank s = false := by
  have hlist : trim s = s ↔ trimRight (trimLeft s.toList) = s.toList := by
    rw [trim, ← String.toList_inj, String.toList_ofList]
  rw [hlist, startsBlank, endsBlank, ← trimLeft_eq_self_iff, ← trimRight_eq_self_iff]
  constructor
  · intro h
    have hleft : trimLeft s.toList = s.toList := by
      rw [← h, trimLeft_trimRight_trimLeft]
    exact ⟨hleft, by rwa [hleft] at h⟩
  · rintro ⟨hleft, hright⟩
    rw [hleft, hright]

end Text

/-! ## Canonical types -/

namespace HostType

def canonical (type : HostType) : HostType :=
  ofName type.name

theorem canonical_builtIn : ∀ entry ∈ builtIn, entry.2.canonical = entry.2 := by
  decide

theorem mem_builtIn_of_lookup {name : String} {type : HostType}
    (h : builtIn.lookup name = some type) : (name, type) ∈ builtIn := by
  obtain ⟨front, rest, hsplit, -⟩ := List.lookup_eq_some_iff.mp h
  rw [hsplit]
  simp

theorem name_ofTrimmedName {name : String} (h : builtIn.lookup name = none) :
    (ofTrimmedName name).name = name := by
  rw [ofTrimmedName, h]
  simp only
  cases hrow : entityMark.toList.isPrefixOf? name.toList with
  | none => rfl
  | some row =>
      have happend := List.isPrefixOf?_eq_some_iff_append_eq.mp hrow
      apply String.toList_injective
      simpa [HostType.name] using happend

theorem canonical_ofName (name : String) : (ofName name).canonical = ofName name := by
  unfold ofName
  cases hlookup : builtIn.lookup (Text.trim name) with
  | some type =>
      have htype : ofTrimmedName (Text.trim name) = type := by rw [ofTrimmedName, hlookup]
      have htype' : type.canonical = type :=
        canonical_builtIn (Text.trim name, type) (mem_builtIn_of_lookup hlookup)
      rw [htype, htype']
  | none =>
      have hname := name_ofTrimmedName hlookup
      rw [canonical, hname, ofName, Text.trim_trim]

theorem canonical_canonical (type : HostType) : type.canonical.canonical = type.canonical :=
  canonical_ofName type.name

/-! ## Types that come back from their names -/

/-- All built-in types, and the others whose names stay as they are and mean nothing else. -/
def IsCanonical : HostType → Prop
  | .entity row => Text.endsBlank row = false
  | .named other =>
      Text.startsBlank other = false ∧ Text.endsBlank other = false ∧
        other ∉ builtIn.map Prod.fst ∧ ¬ entityMark.toList <+: other.toList
  | _ => True

theorem lookup_builtIn_eq_none_iff {name : String} :
    builtIn.lookup name = none ↔ name ∉ builtIn.map Prod.fst := by
  rw [List.lookup_eq_none_iff]
  constructor
  · intro h hmem
    obtain ⟨entry, hentry, rfl⟩ := List.mem_map.mp hmem
    simpa using h entry hentry
  · intro h entry hentry
    have hne : name ≠ entry.1 := by
      rintro rfl
      exact h (List.mem_map_of_mem hentry)
    simpa using hne

theorem not_prefix_of_mem_builtIn :
    ∀ entry ∈ builtIn, ¬ entityMark.toList <+: entry.1.toList := by
  decide

def isBuiltIn : HostType → Bool
  | .entity _ | .named _ => false
  | _ => true

theorem isBuiltIn_of_mem_builtIn : ∀ entry ∈ builtIn, entry.2.isBuiltIn = true := by
  decide

theorem isPrefixOf?_entityMark_eq_none_iff {name : String} :
    entityMark.toList.isPrefixOf? name.toList = none ↔ ¬ entityMark.toList <+: name.toList := by
  rw [Option.eq_none_iff_forall_ne_some, List.IsPrefix, not_exists]
  exact forall_congr' fun rest => not_congr List.isPrefixOf?_eq_some_iff_append_eq

theorem ofTrimmedName_eq_entity_iff {name row : String} :
    ofTrimmedName name = .entity row ↔ name = entityMark ++ row := by
  unfold ofTrimmedName
  cases hlookup : builtIn.lookup name with
  | some type =>
      have hmem := mem_builtIn_of_lookup hlookup
      constructor
      · rintro rfl
        cases isBuiltIn_of_mem_builtIn _ hmem
      · rintro rfl
        have hmark := not_prefix_of_mem_builtIn _ hmem
        simp at hmark
  | none =>
      cases hrow : entityMark.toList.isPrefixOf? name.toList with
      | some rest =>
          have happend := List.isPrefixOf?_eq_some_iff_append_eq.mp hrow
          simp [← String.toList_inj, ← happend]
      | none =>
          rw [isPrefixOf?_entityMark_eq_none_iff] at hrow
          simp only [reduceCtorEq, false_iff]
          rintro rfl
          simp at hrow

theorem ofTrimmedName_eq_named_iff {name other : String} :
    ofTrimmedName name = .named other ↔
      name = other ∧ name ∉ builtIn.map Prod.fst ∧ ¬ entityMark.toList <+: name.toList := by
  rw [← lookup_builtIn_eq_none_iff, ← isPrefixOf?_entityMark_eq_none_iff]
  unfold ofTrimmedName
  cases hlookup : builtIn.lookup name with
  | some type =>
      have hmem := mem_builtIn_of_lookup hlookup
      simp only [reduceCtorEq, false_and, and_false, iff_false]
      rintro rfl
      cases isBuiltIn_of_mem_builtIn _ hmem
  | none =>
      cases hrow : entityMark.toList.isPrefixOf? name.toList with
      | some rest => simp
      | none => simp

theorem startsBlank_entityMark (row : String) : Text.startsBlank (entityMark ++ row) = false := by
  simp [Text.startsBlank, entityMark, Text.isBlank]

theorem endsBlank_entityMark (row : String) :
    Text.endsBlank (entityMark ++ row) = Text.endsBlank row := by
  rw [Text.endsBlank, String.toList_append, List.getLast?_append, Text.endsBlank]
  cases row.toList.getLast? with
  | none => decide
  | some c => rfl

theorem canonical_eq_self_iff {type : HostType} : type.canonical = type ↔ type.IsCanonical := by
  cases type with
  | entity row =>
      rw [canonical, ofName, ofTrimmedName_eq_entity_iff]
      simp only [HostType.name, Text.trim_eq_self_iff, startsBlank_entityMark,
        endsBlank_entityMark, true_and, IsCanonical]
  | named other =>
      rw [canonical, ofName, ofTrimmedName_eq_named_iff]
      simp only [HostType.name, IsCanonical]
      constructor
      · rintro ⟨htrim, hname⟩
        rw [htrim] at hname
        exact ⟨(Text.trim_eq_self_iff.mp htrim).1, (Text.trim_eq_self_iff.mp htrim).2, hname⟩
      · rintro ⟨hstart, hend, hname⟩
        have htrim := Text.trim_eq_self_iff.mpr ⟨hstart, hend⟩
        rw [htrim]
        exact ⟨rfl, hname⟩
  | _ => exact iff_of_true (by decide) trivial

/--
Reading a name and printing the type loses nothing that a second reading could tell.  In
the other order a type comes back from its name exactly when it is canonical, so that
canonical types have different names.
-/
theorem name_roundTrip :
    (∀ name, ofName (ofName name).name = ofName name) ∧
    (∀ type : HostType, ofName type.name = type ↔ type.IsCanonical) ∧
    Set.InjOn HostType.name {type | type.IsCanonical} := by
  refine ⟨canonical_ofName, fun type => canonical_eq_self_iff, ?_⟩
  intro type htype other hother hname
  calc
    type = ofName type.name := (canonical_eq_self_iff.mpr htype).symm
    _ = ofName other.name := by rw [hname]
    _ = other := canonical_eq_self_iff.mpr hother

example : (named " int ").canonical = int32 ∧ (entity "Order ").canonical = entity "Order" := by
  decide

end HostType

end QueryBinding
