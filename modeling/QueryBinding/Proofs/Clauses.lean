import Mathlib.Data.List.DropRight
import QueryBinding.Proofs.Columns

/-!
# Runs of clauses

The clauses of a select can be applied in any number and order.  `Records` says how
the list of the clauses so far accounts for the select that they lead to: each
clause keeps it, so every run from a fresh select has it.  The projection is the one
clause that cannot be taken back.
-/

namespace QueryBinding

inductive Clause where
  | projection
  | mapping (mapping : ProjectionMapping)
  | predicate (predicate : Scalar)
  | orderBy (key : SortKey)
  | thenBy (key : SortKey)
  | limit (limit : Scalar)
  | offset (offset : Scalar)
  deriving Repr

namespace Clause

def change : Clause → Change Select Unit
  | projection => do let _ ← Select.applyProjection
  | mapping m => Select.setMapping m
  | predicate p => modify fun select => select.applyPredicate p
  | orderBy key => modify fun select => select.applyOrderBy key
  | thenBy key => modify fun select => select.applyThenBy key
  | limit l => modify fun select => select.applyLimit l
  | offset o => modify fun select => select.applyOffset o

/-! ## Arguments -/

def mapping? : Clause → Option ProjectionMapping
  | mapping m => some m
  | _ => none

def predicate? : Clause → Option Scalar
  | predicate p => some p
  | _ => none

def orderBy? : Clause → Option SortKey
  | orderBy key => some key
  | _ => none

def thenBy? : Clause → Option SortKey
  | thenBy key => some key
  | _ => none

def limit? : Clause → Option Scalar
  | limit l => some l
  | _ => none

def offset? : Clause → Option Scalar
  | offset o => some o
  | _ => none

def last? {α : Type} (argument? : Clause → Option α) (clauses : List Clause) : Option α :=
  (clauses.filterMap argument?).getLast?

/-- The last key to sort by alone, and the further keys that come after it. -/
def sortKeys (clauses : List Clause) : List SortKey :=
  (last? orderBy? clauses).toList ++
    (clauses.rtakeWhile fun clause => clause.orderBy?.isNone).filterMap thenBy?

theorem last?_concat {α : Type} (argument? : Clause → Option α) (clauses : List Clause)
    (clause : Clause) :
    last? argument? (clauses ++ [clause]) = (argument? clause).or (last? argument? clauses) := by
  cases h : argument? clause <;> simp [last?, h]

theorem sortKeys_concat (clauses : List Clause) (clause : Clause) :
    sortKeys (clauses ++ [clause]) =
      match clause with
      | orderBy key => [key]
      | thenBy key => sortKeys clauses ++ [key]
      | _ => sortKeys clauses := by
  cases clause <;> simp [sortKeys, last?_concat, orderBy?, thenBy?]

theorem sortKeys_of_thenBy {clauses : List Clause} (h : last? orderBy? clauses = none) :
    sortKeys clauses = clauses.filterMap thenBy? := by
  have hall : ∀ clause ∈ clauses, clause.orderBy?.isNone := by
    simpa [last?] using h
  rw [sortKeys, h, List.rtakeWhile_eq_self_iff.mpr hall]
  rfl

theorem sortKeys_of_orderBy (before : List Clause) (key : SortKey) {rest : List Clause}
    (h : last? orderBy? rest = none) :
    sortKeys (before ++ .orderBy key :: rest) = key :: rest.filterMap thenBy? := by
  induction rest using List.reverseRecOn with
  | nil => rw [sortKeys_concat]; rfl
  | append_singleton rest clause ih =>
      rw [last?_concat, Option.or_eq_none_iff] at h
      rw [← List.cons_append, ← List.append_assoc, sortKeys_concat, List.filterMap_append, ih h.2]
      cases clause with
      | orderBy => cases h.1
      | _ => simp [thenBy?]

end Clause

namespace Select

open Clause

variable {select initial : Select} {entity : EntityType} {source : MappingSource}
  {clauses : List Clause} {clause : Clause}

/-- The select that a clause leaves, whether it succeeds or not. -/
def after (select : Select) (clause : Clause) : Select :=
  (clause.change.on select).2

def run (select : Select) (clauses : List Clause) : Select :=
  clauses.foldl after select

theorem run_append (select : Select) (before rest : List Clause) :
    select.run (before ++ rest) = (select.run before).run rest :=
  List.foldl_append

/-! ## One clause -/

theorem after_of_applied (h : select.phase = .applied)
    (hclause : clause = .projection ∨ clause.mapping?.isSome) : select.after clause = select := by
  cases clause with
  | projection => simp [after, change, on_applyProjection_of_applied h]
  | mapping m => rw [after, change, on_setMapping_of_applied h]
  | _ => simp [mapping?] at hclause

theorem after_projection (h : select.phase = .mapping) :
    select.after .projection =
      { select with
        projection := select.projection ++ select.mapping.flatten
        phase := .applied } := by
  simp [after, change, on_applyProjection_of_mapping h]

theorem after_mapping (h : select.phase = .mapping) (mapping : ProjectionMapping) :
    select.after (.mapping mapping) = { select with mapping } := by
  rw [after, change, on_setMapping_of_mapping h]

theorem projection_after (h : select.phase = .applied) (clause : Clause) :
    (select.after clause).mapping = select.mapping ∧
      (select.after clause).projection = select.projection ∧
      (select.after clause).phase = .applied := by
  cases clause with
  | projection => rw [after_of_applied h (.inl rfl)]; exact ⟨rfl, rfl, h⟩
  | mapping => rw [after_of_applied h (.inr rfl)]; exact ⟨rfl, rfl, h⟩
  | _ => exact ⟨rfl, rfl, h⟩

theorem after_frame (select : Select) (clause : Clause) :
    (select.after clause).tables = select.tables ∧
    (select.after clause).predicate = clause.predicate?.or select.predicate ∧
    (select.after clause).orderings =
      (match clause with
      | .orderBy key => [key]
      | .thenBy key => select.orderings ++ [key]
      | _ => select.orderings) ∧
    (select.after clause).limit = clause.limit?.or select.limit ∧
    (select.after clause).offset = clause.offset?.or select.offset := by
  cases clause with
  | projection =>
      cases hphase : select.phase with
      | mapping => rw [after_projection hphase]; exact ⟨rfl, rfl, rfl, rfl, rfl⟩
      | applied => rw [after_of_applied hphase (.inl rfl)]; exact ⟨rfl, rfl, rfl, rfl, rfl⟩
  | mapping =>
      cases hphase : select.phase with
      | mapping => rw [after_mapping hphase]; exact ⟨rfl, rfl, rfl, rfl, rfl⟩
      | applied => rw [after_of_applied hphase (.inr rfl)]; exact ⟨rfl, rfl, rfl, rfl, rfl⟩
  | _ => exact ⟨rfl, rfl, rfl, rfl, rfl⟩

/-! ## Runs -/

theorem projection_run (h : select.phase = .applied) (clauses : List Clause) :
    (select.run clauses).mapping = select.mapping ∧
      (select.run clauses).projection = select.projection := by
  induction clauses generalizing select with
  | nil => exact ⟨rfl, rfl⟩
  | cons clause rest ih =>
      obtain ⟨hmapping, hprojection, hphase⟩ := projection_after h clause
      obtain ⟨hmapping', hprojection'⟩ := ih hphase
      exact ⟨hmapping'.trans hmapping, hprojection'.trans hprojection⟩

/-- How the clauses applied to a fresh select account for the select that they lead to. -/
structure Records (initial : Select) (clauses : List Clause) (select : Select) : Prop where
  tables : select.tables = initial.tables
  unapplied : .projection ∉ clauses →
    select.phase = .mapping ∧ select.projection = [] ∧
      select.mapping = (last? mapping? clauses).getD initial.mapping
  applied : .projection ∈ clauses →
    select.phase = .applied ∧ select.projection = select.mapping.flatten
  predicate : select.predicate = last? predicate? clauses
  orderings : select.orderings = sortKeys clauses
  limit : select.limit = last? limit? clauses
  offset : select.offset = last? offset? clauses

theorem records_nil (h : ofEntity entity source = .ok initial) : Records initial [] initial := by
  obtain ⟨projection, -, h⟩ := bind_eq_ok_iff.mp h
  cases h
  exact ⟨rfl, fun _ => ⟨rfl, rfl, rfl⟩, nofun, rfl, rfl, rfl, rfl⟩

theorem Records.after (h : Records initial clauses select) (clause : Clause) :
    Records initial (clauses ++ [clause]) (select.after clause) := by
  obtain ⟨htables, hpredicate, horderings, hlimit, hoffset⟩ := after_frame select clause
  constructor
  case tables => rw [htables, h.tables]
  case predicate => rw [hpredicate, last?_concat, h.predicate]
  case orderings => rw [horderings, sortKeys_concat, h.orderings]
  case limit => rw [hlimit, last?_concat, h.limit]
  case offset => rw [hoffset, last?_concat, h.offset]
  case unapplied =>
    intro hnot
    simp only [List.mem_append, List.mem_singleton, not_or] at hnot
    obtain ⟨hphase, hprojection, hmapping⟩ := h.unapplied hnot.1
    rw [last?_concat]
    cases clause with
    | projection => exact (hnot.2 rfl).elim
    | mapping m =>
        rw [after_mapping hphase]
        exact ⟨hphase, hprojection, rfl⟩
    | _ => exact ⟨hphase, hprojection, hmapping⟩
  case applied =>
    intro hmem
    by_cases hbefore : .projection ∈ clauses
    · obtain ⟨hphase, hflat⟩ := h.applied hbefore
      obtain ⟨hmapping, hprojection, hphase'⟩ := projection_after hphase clause
      exact ⟨hphase', by rw [hprojection, hmapping, hflat]⟩
    · obtain rfl : .projection = clause := by simpa [hbefore] using hmem
      obtain ⟨hphase, hprojection, -⟩ := h.unapplied hbefore
      rw [after_projection hphase, hprojection]
      exact ⟨rfl, rfl⟩

theorem records_run (h : ofEntity entity source = .ok initial) (clauses : List Clause) :
    Records initial clauses (initial.run clauses) := by
  induction clauses using List.reverseRecOn with
  | nil => exact records_nil h
  | append_singleton clauses clause ih =>
      rw [run_append]
      exact ih.after clause

theorem run_projection (h : ofEntity entity source = .ok initial) {before : List Clause}
    (hbefore : .projection ∉ before) (rest : List Clause) :
    (initial.run (before ++ .projection :: rest)).mapping = (initial.run before).mapping ∧
      (initial.run (before ++ .projection :: rest)).projection =
        (initial.run before).mapping.flatten := by
  obtain ⟨hphase, hprojection, -⟩ := (records_run h before).unapplied hbefore
  have happlied := after_projection hphase
  rw [hprojection, List.nil_append] at happlied
  have hfinal : ((initial.run before).after .projection).phase = .applied := by rw [happlied]
  obtain ⟨hmapping', hprojection'⟩ := projection_run hfinal rest
  rw [run_append]
  exact ⟨hmapping'.trans (by rw [happlied]), hprojection'.trans (by rw [happlied])⟩

/--
A run of clauses from a fresh select.  The tables never change.  Until the projection
is applied, the flat projection is empty and the mapping is the last one that was set;
from then on both are final, and to apply or replace them again is refused and leaves the
select as it is.  All other clauses count by their last argument, and further keys to sort
by are added up.
-/
theorem run_clauses (h : ofEntity entity source = .ok initial) (clauses : List Clause) :
    (initial.run clauses).tables = initial.tables ∧
    ((initial.run clauses).phase = .applied ↔ .projection ∈ clauses) ∧
    ((initial.run clauses).phase = .mapping →
      (initial.run clauses).projection = [] ∧
      (initial.run clauses).mapping = (last? mapping? clauses).getD initial.mapping) ∧
    (∀ before rest, clauses = before ++ .projection :: rest → .projection ∉ before →
      (initial.run clauses).mapping = (initial.run before).mapping ∧
      (initial.run clauses).projection = (initial.run before).mapping.flatten ∧
      applyProjection.on (initial.run clauses) =
        (.error .projectionAlreadyApplied, initial.run clauses) ∧
      ∀ mapping, (setMapping mapping).on (initial.run clauses) =
        (.error .projectionAlreadyApplied, initial.run clauses)) ∧
    (initial.run clauses).predicate = last? predicate? clauses ∧
    (initial.run clauses).limit = last? limit? clauses ∧
    (initial.run clauses).offset = last? offset? clauses ∧
    (last? orderBy? clauses = none →
      (initial.run clauses).orderings = clauses.filterMap thenBy?) ∧
    ∀ before key rest, clauses = before ++ .orderBy key :: rest → last? orderBy? rest = none →
      (initial.run clauses).orderings = key :: rest.filterMap thenBy? := by
  have hrecords := records_run h clauses
  have hphase : (initial.run clauses).phase = .applied ↔ .projection ∈ clauses := by
    by_cases hmem : .projection ∈ clauses
    · simp [(hrecords.applied hmem).1, hmem]
    · simp [(hrecords.unapplied hmem).1, hmem]
  refine ⟨hrecords.tables, hphase, ?unapplied, ?applied, hrecords.predicate, hrecords.limit,
    hrecords.offset, ?thenBy, ?orderBy⟩
  case unapplied =>
    intro hmapping
    have hmem : .projection ∉ clauses := fun hmem => by simp [hphase.mpr hmem] at hmapping
    exact (hrecords.unapplied hmem).2
  case applied =>
    rintro before rest rfl hbefore
    obtain ⟨hmapping, hprojection⟩ := run_projection h hbefore rest
    have happlied := hphase.mpr (by simp)
    exact ⟨hmapping, hprojection, on_applyProjection_of_applied happlied,
      on_setMapping_of_applied happlied⟩
  case thenBy =>
    intro hnone
    rw [hrecords.orderings, sortKeys_of_thenBy hnone]
  case orderBy =>
    rintro before key rest rfl hnone
    rw [hrecords.orderings, sortKeys_of_orderBy before key hnone]

theorem run_clauses_customers :
    let age : SortKey := ⟨.value (.column ⟨"Age", "c", .int32, false⟩) none, true⟩
    let name : SortKey := ⟨.value (.column ⟨"full_name", "c", .string, false⟩) none, false⟩
    let ten : Scalar := .value (.constant (.int 10) .int64) none
    let clauses : List Clause :=
      [.thenBy age, .orderBy name, .limit ten, .projection, .mapping .empty, .thenBy age,
        .projection]
    ofEntity Customers.entity StoreTypes.standard.source = .ok Customers.query.select ∧
      (Customers.query.select.run clauses).orderings = [name, age] ∧
      (Customers.query.select.run clauses).limit = some ten ∧
      (Customers.query.select.run clauses).projection = Customers.columns.values := by
  intro age name ten clauses
  have hquery : ofEntity Customers.entity StoreTypes.standard.source = .ok Customers.query.select :=
    rfl
  obtain ⟨-, -, -, happlied, -, hlimit, -, -, horderings⟩ := run_clauses hquery clauses
  refine ⟨hquery, horderings [.thenBy age] name _ rfl rfl, hlimit, ?_⟩
  obtain ⟨-, hprojection, -⟩ := happlied [.thenBy age, .orderBy name, .limit ten] _ rfl (by simp)
  rw [hprojection]
  rfl

end Select

end QueryBinding
