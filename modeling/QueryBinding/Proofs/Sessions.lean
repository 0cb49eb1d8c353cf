import QueryBinding.Proofs.Agreement
import QueryBinding.Proofs.Clauses
import QueryBinding.Proofs.Dependence

/-!
# Translations between clauses

While a query is compiled, the translations of its expressions alternate with the
clauses that they are made for.  A translation reads the projection mapping of the
select and nothing else, and the replacement of the mapping is the only clause that
changes it.  So as long as no replacement succeeds, it does not matter when an
expression is translated.
-/

namespace QueryBinding

inductive SessionStep where
  | clause (clause : Clause)
  | translation (t : Translator) (e : Expr) (condition : Bool)

namespace SessionStep

def clause? : SessionStep → Option Clause
  | clause c => some c
  | translation .. => none

def answer? (select : Select) : SessionStep → Option (Except Fault Scalar)
  | clause _ => none
  | translation t e condition => some (t.translate select e condition)

end SessionStep

namespace Select

def answers (select : Select) : List SessionStep → List (Except Fault Scalar)
  | [] => []
  | .clause clause :: rest => (select.after clause).answers rest
  | .translation t e condition :: rest => t.translate select e condition :: select.answers rest

/-- Each replacement of the mapping is refused by the select that it comes to. -/
def RefusesMappings (select : Select) (steps : List SessionStep) : Prop :=
  ∀ before mapping rest, steps = before ++ .clause (.mapping mapping) :: rest →
    ∃ fault, ((Clause.mapping mapping).change.on
      (select.run (before.filterMap SessionStep.clause?))).1 = .error fault

variable {select initial : Select} {clause : Clause} {steps rest : List SessionStep}

/-! ## One step -/

theorem mapping_after
    (h : clause.mapping?.isSome → ∃ fault, (clause.change.on select).1 = .error fault) :
    (select.after clause).mapping = select.mapping := by
  cases clause with
  | projection =>
      cases hphase : select.phase with
      | mapping => rw [after_projection hphase]
      | applied => rw [after_of_applied hphase (.inl rfl)]
  | mapping m =>
      obtain ⟨fault, hfault⟩ := h rfl
      cases hphase : select.phase with
      | mapping =>
          rw [Clause.change, on_setMapping_of_mapping hphase] at hfault
          cases hfault
      | applied => rw [after_of_applied hphase (.inr rfl)]
  | _ => rfl

theorem RefusesMappings.apply_clause (h : select.RefusesMappings (.clause clause :: rest))
    (hclause : clause.mapping?.isSome) :
    ∃ fault, (clause.change.on select).1 = .error fault := by
  cases clause with
  | mapping m => exact h [] m rest rfl
  | _ => cases hclause

theorem RefusesMappings.after_clause (h : select.RefusesMappings (.clause clause :: rest)) :
    (select.after clause).RefusesMappings rest := by
  rintro before mapping after rfl
  exact h (.clause clause :: before) mapping after rfl

theorem RefusesMappings.of_translation {t : Translator} {e : Expr} {condition : Bool}
    (h : select.RefusesMappings (.translation t e condition :: rest)) :
    select.RefusesMappings rest := by
  rintro before mapping after rfl
  exact h (.translation t e condition :: before) mapping after rfl

/-! ## Whole sessions -/

theorem sameLookups_of_alike {select' : Select} (t : Translator)
    (h : select.mapping.Alike select'.mapping) : Translator.SameLookups t t select select' :=
  ⟨rfl, rfl, bindProperty_congr h⟩

theorem translate_of_alike {select' : Select} (h : select.mapping.Alike select'.mapping)
    (t : Translator) (e : Expr) (condition : Bool) :
    t.translate select' e condition = t.translate select e condition ∧
      t.translateChecked select' e condition = t.translateChecked select e condition := by
  have hsame := sameLookups_of_alike t h
  have hvisit : t.visit select' e = t.visit select e := Translator.visit_congr hsame fun _ _ => rfl
  exact ⟨Translator.translate_congr hsame hvisit condition,
    Translator.translateChecked_congr hsame hvisit condition⟩

theorem answers_eq_filterMap (hmapping : select.mapping = initial.mapping)
    (h : select.RefusesMappings steps) :
    select.answers steps = steps.filterMap (SessionStep.answer? initial) := by
  induction steps generalizing select with
  | nil => rfl
  | cons step rest ih =>
      cases step with
      | clause clause =>
          have hafter : (select.after clause).mapping = initial.mapping :=
            (mapping_after h.apply_clause).trans hmapping
          exact ih hafter h.after_clause
      | translation t e condition =>
          have halike : initial.mapping.Alike select.mapping := hmapping ▸ .refl _
          have hanswer := (translate_of_alike halike t e condition).1
          rw [answers, hanswer, ih hmapping h.of_translation]
          rfl

/--
Over selects with equal projection mappings an expression is translated alike, whatever
else the selects hold; of mappings only what properties are bound through has to be
equal, in any order.  So in a session in which no replacement of the mapping succeeds,
every translation answers as it would have done at the start.
-/
theorem translate_between_clauses :
    (∀ select select' : Select, select.mapping.Alike select'.mapping →
      ∀ (t : Translator) (e : Expr) (condition : Bool),
        t.translate select' e condition = t.translate select e condition ∧
        t.translateChecked select' e condition = t.translateChecked select e condition) ∧
    (∀ select select' : Select,
      select.mapping = select'.mapping ∨
        select.Built ∧ select'.Built ∧ select.mapping.equal select'.mapping = true →
      select.mapping.Alike select'.mapping) ∧
    ∀ (initial : Select) (steps : List SessionStep), initial.RefusesMappings steps →
      initial.answers steps = steps.filterMap (SessionStep.answer? initial) := by
  refine ⟨fun select select' halike => translate_of_alike halike, ?_, ?_⟩
  · rintro select select' (hmapping | ⟨hbuilt, hbuilt', hequal⟩)
    · rw [hmapping]
      exact .refl _
    · exact alike_of_equal hbuilt hbuilt' hequal
  · intro initial steps hrefused
    exact answers_eq_filterMap rfl hrefused

theorem translate_between_clauses_customers :
    let t := Customers.translator
    let select := Customers.query.select
    let age := Expr.get Customers.query.row "Age" .int32
    let column : Scalar := .value (.column ⟨"Age", "c", .int32, false⟩) (some ⟨"integer", .int32⟩)
    let total : Scalar := .value (.constant (.int 0) .int64) none
    let customers : ProjectedItem := .entity ⟨Customers.entity, "c", Customers.columns⟩
    let path : ProjectionPath := ⟨["Total"]⟩
    let wide := { select with mapping := .ofList [(.root, customers), (path, .scalar total)] }
    let other :=
      { select with
        mapping := .ofList [(path, .scalar total), (.root, customers)]
        limit := some total }
    let steps : List SessionStep :=
      [.translation t age false, .clause .projection, .clause (.mapping .empty),
        .clause (.limit total), .translation t age false]
    (wide.Built ∧ other.Built ∧ wide.mapping.equal other.mapping = true) ∧
      t.translate other age true = t.translate wide age true ∧
      select.RefusesMappings steps ∧ select.answers steps = [.ok column, .ok column] := by
  intro t select age column total customers path wide other steps
  obtain ⟨hcongr, halike, hsession⟩ := translate_between_clauses
  have hcustomers : ∀ {mapping : ProjectionMapping}, mapping.entries ⊆ wide.mapping.entries →
      Select.Built { select with mapping } := by
    intro mapping hentries position projection hitem
    have hmem := hentries ((OrderedMap.find?_eq_some_iff _ _ _).mp hitem)
    rcases List.mem_cons.mp hmem with heq | hmem
    · cases heq
      exact ⟨_, Customers.builtWith_query .root _ rfl⟩
    · cases List.mem_singleton.mp hmem
  have hwide : wide.Built := hcustomers (List.Subset.refl _)
  have hother : other.Built := by
    apply hcustomers
    intro entry hentry
    rcases List.mem_cons.mp hentry with rfl | hentry
    · exact List.mem_cons_of_mem _ (List.mem_cons_self ..)
    · obtain rfl := List.mem_singleton.mp hentry
      exact List.mem_cons_self ..
  have hequal : wide.mapping.equal other.mapping = true := by rfl
  have hrefused : select.RefusesMappings steps := by
    intro before mapping rest hsteps
    rcases before with _ | ⟨_, _ | ⟨_, _ | ⟨_, _ | ⟨_, _ | ⟨_, before⟩⟩⟩⟩⟩ <;>
      simp [steps] at hsteps
    obtain ⟨rfl, rfl, rfl, -⟩ := hsteps
    exact ⟨_, rfl⟩
  refine ⟨⟨hwide, hother, hequal⟩, ?_, hrefused, hsession select steps hrefused⟩
  exact (hcongr wide other (halike wide other (.inr ⟨hwide, hother, hequal⟩)) t age true).1

end Select

end QueryBinding
