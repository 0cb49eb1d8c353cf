import QueryBinding.Expr
import QueryBinding.Text.Escaped

/-!
# Rewrite rules

Rules turn method calls and member accesses into SQL nodes.  A rule is asked
about a node whose receiver and arguments are bound already and may decline.
Rules are asked in order, and the first that does not decline gives the answer.
-/

namespace QueryBinding

structure CallRule where
  id : String
  rewrite? : MethodCall → Option Expr

structure MemberRule where
  id : String
  rewrite? : MemberAccess → Option Expr

structure RuleSet where
  calls : List CallRule
  members : List MemberRule

namespace RuleSet

def empty : RuleSet :=
  ⟨[], []⟩

def addCalls (rules : RuleSet) (batch : List CallRule) : RuleSet :=
  { rules with calls := batch ++ rules.calls }

def addMembers (rules : RuleSet) (batch : List MemberRule) : RuleSet :=
  { rules with members := batch ++ rules.members }

def rewriteCall? (rules : RuleSet) (call : MethodCall) : Option Expr :=
  rules.calls.findSome? (·.rewrite? call)

def rewriteMember? (rules : RuleSet) (access : MemberAccess) : Option Expr :=
  rules.members.findSome? (·.rewrite? access)

def callIds (rules : RuleSet) : List String :=
  rules.calls.map CallRule.id

def memberIds (rules : RuleSet) : List String :=
  rules.members.map MemberRule.id

def listing (rules : RuleSet) : String :=
  "TranslatorProvider \x7b method_call_translators: " ++ bracketed rules.callIds ++
    ", member_translators: " ++ bracketed rules.memberIds ++ " \x7d"
where
  bracketed (ids : List String) : String :=
    "[" ++ String.intercalate ", " (ids.map Text.escape) ++ "]"

end RuleSet

end QueryBinding
