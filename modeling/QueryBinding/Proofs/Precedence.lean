import Mathlib.Data.List.Basic
import Mathlib.Data.List.Induction
import QueryBinding.Rewrite.Equality
import QueryBinding.Rewrite.Template

/-!
# Precedence of rules

Rules come in batches, and a batch is put in front of the rules that are there.  So the
last batch is asked first, and within a batch the order is its own.  Calls and members
have lists of their own, on which batches for the other kind leave no trace.  The answer
is that of the first rule which does not decline.
-/

namespace QueryBinding

inductive RuleBatch where
  | calls (rules : List CallRule)
  | members (rules : List MemberRule)

namespace RuleBatch

def callRules : RuleBatch → List CallRule
  | .calls rules => rules
  | .members _ => []

def memberRules : RuleBatch → List MemberRule
  | .calls _ => []
  | .members rules => rules

end RuleBatch

namespace RuleSet

variable {rules : RuleSet} {call : MethodCall} {access : MemberAccess} {answer : Expr}

/-! ## The order in which rules are asked -/

def add (rules : RuleSet) : RuleBatch → RuleSet
  | .calls batch => rules.addCalls batch
  | .members batch => rules.addMembers batch

def run (rules : RuleSet) (batches : List RuleBatch) : RuleSet :=
  batches.foldl add rules

theorem calls_add (rules : RuleSet) (batch : RuleBatch) :
    (rules.add batch).calls = batch.callRules ++ rules.calls := by
  cases batch <;> rfl

theorem members_add (rules : RuleSet) (batch : RuleBatch) :
    (rules.add batch).members = batch.memberRules ++ rules.members := by
  cases batch <;> rfl

theorem run_append_singleton (rules : RuleSet) (batches : List RuleBatch) (batch : RuleBatch) :
    rules.run (batches ++ [batch]) = (rules.run batches).add batch :=
  List.foldl_concat ..

theorem run_prepends {ρ : Type} (list : RuleSet → List ρ) (batchRules : RuleBatch → List ρ)
    (hadd : ∀ rules batch, list (rules.add batch) = batchRules batch ++ list rules)
    (rules : RuleSet) (batches : List RuleBatch) :
    list (rules.run batches) = batches.reverse.flatMap batchRules ++ list rules := by
  induction batches using List.reverseRecOn with
  | nil => rfl
  | append_singleton batches batch ih =>
      calc
        list (rules.run (batches ++ [batch]))
          = batchRules batch ++ list (rules.run batches) := by rw [run_append_singleton, hadd]
        _ = batchRules batch ++ (batches.reverse.flatMap batchRules ++ list rules) := by rw [ih]
        _ = (batches ++ [batch]).reverse.flatMap batchRules ++ list rules := by
            rw [List.reverse_append, List.reverse_singleton, List.singleton_append,
              List.flatMap_cons, List.append_assoc]

theorem calls_run (rules : RuleSet) (batches : List RuleBatch) :
    (rules.run batches).calls = batches.reverse.flatMap RuleBatch.callRules ++ rules.calls :=
  run_prepends calls RuleBatch.callRules calls_add rules batches

theorem members_run (rules : RuleSet) (batches : List RuleBatch) :
    (rules.run batches).members =
      batches.reverse.flatMap RuleBatch.memberRules ++ rules.members :=
  run_prepends members RuleBatch.memberRules members_add rules batches

/-! ## The rule that answers -/

/-- Among the rules, in their order, the first that does not decline answers this. -/
def AnswersFirst {ρ : Type} (ask : ρ → Option Expr) (rules : List ρ) (answer : Expr) : Prop :=
  ∃ before rule after, rules = before ++ rule :: after ∧
    (∀ earlier ∈ before, ask earlier = none) ∧ ask rule = some answer

theorem findSome?_eq_some_iff_answersFirst {ρ : Type} {ask : ρ → Option Expr} {list : List ρ} :
    list.findSome? ask = some answer ↔ AnswersFirst ask list answer := by
  rw [List.findSome?_eq_some_iff]
  exact exists_congr fun before => exists_congr fun rule => exists_congr fun after =>
    and_congr_right fun _ => and_comm

theorem rewriteCall?_eq_some_iff :
    rules.rewriteCall? call = some answer ↔
      AnswersFirst (·.rewrite? call) rules.calls answer :=
  findSome?_eq_some_iff_answersFirst

theorem rewriteMember?_eq_some_iff :
    rules.rewriteMember? access = some answer ↔
      AnswersFirst (·.rewrite? access) rules.members answer :=
  findSome?_eq_some_iff_answersFirst

/-! ## Any run of batches -/

/--
The batches that came last are asked first, each in its own order, and the rules that were
there before all of them come last; the batches for one kind do not show in the list of the
other.  Two batches in succession are one batch, the second in front of the first.  What a
set of rules answers is the answer of its first rule that does not decline, and there is
none only if all decline.
-/
theorem run_consults :
    (∀ (rules : RuleSet) (batches : List RuleBatch),
      (rules.run batches).calls =
          batches.reverse.flatMap RuleBatch.callRules ++ rules.calls ∧
        (rules.run batches).members =
          batches.reverse.flatMap RuleBatch.memberRules ++ rules.members) ∧
    (∀ (rules : RuleSet) (first second : List CallRule),
      (rules.addCalls first).addCalls second = rules.addCalls (second ++ first)) ∧
    (∀ (rules : RuleSet) (first second : List MemberRule),
      (rules.addMembers first).addMembers second = rules.addMembers (second ++ first)) ∧
    ∀ rules : RuleSet,
      (∀ call,
        (∀ answer, rules.rewriteCall? call = some answer ↔
          AnswersFirst (·.rewrite? call) rules.calls answer) ∧
        (rules.rewriteCall? call = none ↔
          ∀ rule ∈ rules.calls, rule.rewrite? call = none)) ∧
      ∀ access,
        (∀ answer, rules.rewriteMember? access = some answer ↔
          AnswersFirst (·.rewrite? access) rules.members answer) ∧
        (rules.rewriteMember? access = none ↔
          ∀ rule ∈ rules.members, rule.rewrite? access = none) := by
  refine ⟨?order, ?calls, ?members, ?answers⟩
  case order =>
    intro rules batches
    exact ⟨calls_run rules batches, members_run rules batches⟩
  case calls =>
    intro rules first second
    simp only [addCalls, List.append_assoc]
  case members =>
    intro rules first second
    simp only [addMembers, List.append_assoc]
  case answers =>
    intro rules
    exact ⟨fun call => ⟨fun _ => rewriteCall?_eq_some_iff, List.findSome?_eq_none_iff⟩,
      fun access => ⟨fun _ => rewriteMember?_eq_some_iff, List.findSome?_eq_none_iff⟩⟩

example :
    let loose := CallRule.ofTemplate "loose" ⟨some "Equals", none, none, none⟩
      (.fragment "1 = 1" .bool)
    let never := CallRule.ofTemplate "never" ⟨none, none, none, none⟩ .decline
    let year := MemberRule.ofTemplate "year" ⟨some "Year", none⟩ (.receiverFunction "YEAR")
    let rules := relational.run [.calls [loose], .members [year], .calls [never]]
    rules.callIds = ["never", "loose", "equals"] ∧ rules.memberIds = ["year"] ∧
      rules.rewriteCall? ⟨none, ⟨"Object", "Equals"⟩, [], .bool⟩ =
        some (.fragment "1 = 1" .bool) :=
  ⟨by decide, by decide, rfl⟩

end RuleSet

end QueryBinding
