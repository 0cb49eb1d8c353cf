import QueryBinding.Expr.Build
import QueryBinding.Expr.Induction
import QueryBinding.Proofs.Columns
import QueryBinding.Rewrite.Template

/-!
# What binding depends on

Apart from the mapping source, binding consults the select for the columns behind
properties, and the rules about the calls and members that it has rebuilt from bound
parts.  `inquiries` lists what the rules are asked.  Translators that answer these
inquiries alike, over selects that bind properties alike, agree on the expression; so
rules that decline all of them can be added without any effect.
-/

namespace QueryBinding

open QueryBinding.Expr

/-! ## Inquiries -/

inductive Inquiry where
  | call (call : MethodCall)
  | member (access : MemberAccess)
  deriving Repr

def RuleSet.answer? (rules : RuleSet) : Inquiry → Option Expr
  | .call rebuilt => rules.rewriteCall? rebuilt
  | .member rebuilt => rules.rewriteMember? rebuilt

namespace Inquiry

def following {α : Type} (step : Except Fault α) (next : α → List Inquiry) : List Inquiry :=
  match step with
  | .ok a => next a
  | .error _ => []

def ofMember (access : MemberAccess) : List Inquiry :=
  match access.receiver.bind Expr.asRow? with
  | some _ => []
  | none => [.member access]

def ofCall (call : MethodCall) : List Inquiry :=
  match Translator.accessedRow? call with
  | some _ => []
  | none => [.call call]

end Inquiry

namespace Translator

open Inquiry

mutual

/--
What the rules are asked while an expression is bound, in this order.  The parts of a
node come first, accesses to properties of rows are not asked about, and after a fault
nothing is.
-/
def inquiries (t : Translator) (select : Select) : Expr → List Inquiry
  | .member receiver name type =>
      inquiriesOption t select receiver ++
        following (t.visitOption select receiver) fun receiver' =>
          ofMember ⟨receiver', name, type⟩
  | .call receiver method args type =>
      inquiriesOption t select receiver ++
        following (t.visitOption select receiver) fun receiver' =>
          inquiriesAll t select args ++
            following (t.visitAll select args) fun args' =>
              ofCall ⟨receiver', method, args', type⟩
  | .binary _ left right _ =>
      inquiries t select left ++
        following (t.visit select left) fun _ => inquiries t select right
  | .unary _ operand _ => inquiries t select operand
  | _ => []

def inquiriesOption (t : Translator) (select : Select) : Option Expr → List Inquiry
  | some e => inquiries t select e
  | none => []

def inquiriesAll (t : Translator) (select : Select) : List Expr → List Inquiry
  | [] => []
  | e :: rest =>
      inquiries t select e ++
        following (t.visit select e) fun _ => inquiriesAll t select rest

end

/-! ## Two runs -/

/-- The translators have the same mappings, and the selects bind properties alike. -/
structure SameLookups (t t' : Translator) (select select' : Select) : Prop where
  source : t'.source = t.source
  boolMapping : t'.boolMapping = t.boolMapping
  bindProperty : ∀ placeholder property,
    select'.bindProperty placeholder property = select.bindProperty placeholder property

def SameAnswers (t t' : Translator) (asked : List Inquiry) : Prop :=
  ∀ inquiry ∈ asked, t'.rules.answer? inquiry = t.rules.answer? inquiry

variable {t t' : Translator} {select select' : Select} {e e' : Expr}

theorem sameLookups_of_rules (t : Translator) (rules : RuleSet) (select : Select) :
    SameLookups t { t with rules } select select :=
  ⟨rfl, rfl, fun _ _ => rfl⟩

theorem sameAnswers_append {asked more : List Inquiry} :
    SameAnswers t t' (asked ++ more) ↔ SameAnswers t t' asked ∧ SameAnswers t t' more :=
  List.forall_mem_append

theorem SameAnswers.of_following {α : Type} {step : Except Fault α} {next : α → List Inquiry}
    {a : α} (h : SameAnswers t t' (following step next)) (hstep : step = .ok a) :
    SameAnswers t t' (next a) := by
  rw [hstep] at h
  exact h

theorem SameLookups.bindName_eq (hsame : SameLookups t t' select select') (entity : EntityType)
    (buffer : Expr) (name : String) :
    bindName select' entity buffer name = bindName select entity buffer name := by
  unfold bindName
  simp only [hsame.bindProperty]

theorem resolveMember_congr (hsame : SameLookups t t' select select') {access : MemberAccess}
    (h : SameAnswers t t' (ofMember access)) :
    t'.resolveMember select' access = t.resolveMember select access := by
  unfold resolveMember
  cases hrow : access.receiver.bind Expr.asRow? with
  | some row =>
      obtain ⟨entity, buffer⟩ := row
      exact hsame.bindName_eq entity buffer access.name
  | none =>
      have hasked : t'.rules.rewriteMember? access = t.rules.rewriteMember? access :=
        h (.member access) (by simp [ofMember, hrow])
      simp only [hasked]

theorem resolveCall_congr (hsame : SameLookups t t' select select') {call : MethodCall}
    (h : SameAnswers t t' (ofCall call)) :
    t'.resolveCall select' call = t.resolveCall select call := by
  unfold resolveCall
  cases hrow : accessedRow? call with
  | some row =>
      obtain ⟨entity, buffer⟩ := row
      have hname := hsame.bindName_eq entity buffer
      simp only [hname]
  | none =>
      have hasked : t'.rules.rewriteCall? call = t.rules.rewriteCall? call :=
        h (.call call) (by simp [ofCall, hrow])
      simp only [hasked]

theorem resolveUnary_congr (hsame : SameLookups t t' select select') (op : UnaryOp)
    (operand : Expr) (type : HostType) :
    t'.resolveUnary op operand type = t.resolveUnary op operand type := by
  rw [resolveUnary, resolveUnary, hsame.source]

theorem visitOption_congr {receiver : Option Expr}
    (hreceiver : ∀ r ∈ receiver,
      SameAnswers t t' (t.inquiries select r) → t'.visit select' r = t.visit select r)
    (h : SameAnswers t t' (t.inquiriesOption select receiver)) :
    t'.visitOption select' receiver = t.visitOption select receiver := by
  cases receiver with
  | none => rfl
  | some r =>
      have hr : t'.visit select' r = t.visit select r := hreceiver r rfl h
      rw [visitOption, visitOption, hr]

theorem visitAll_congr {args : List Expr}
    (hargs : ∀ a ∈ args,
      SameAnswers t t' (t.inquiries select a) → t'.visit select' a = t.visit select a)
    (h : SameAnswers t t' (t.inquiriesAll select args)) :
    t'.visitAll select' args = t.visitAll select args := by
  induction args with
  | nil => rfl
  | cons a rest ih =>
      obtain ⟨hfirst, hfollowing⟩ := sameAnswers_append.mp h
      have ha : t'.visit select' a = t.visit select a := hargs a (by simp) hfirst
      rw [visitAll, visitAll, ha]
      cases hbound : t.visit select a with
      | error fault => rfl
      | ok a' =>
          have hrest : t'.visitAll select' rest = t.visitAll select rest :=
            ih (fun b hb => hargs b (List.mem_cons_of_mem a hb)) (hfollowing.of_following hbound)
          rw [hrest]

/-- Binding depends on nothing but look-ups and the answers to its inquiries. -/
theorem visit_congr (hsame : SameLookups t t' select select')
    (h : SameAnswers t t' (t.inquiries select e)) : t'.visit select' e = t.visit select e := by
  induction e with
  | member receiver name type ih =>
      obtain ⟨hparts, hfollowing⟩ := sameAnswers_append.mp h
      rw [visit, visit, visitOption_congr ih hparts]
      cases hbound : t.visitOption select receiver with
      | error fault => rfl
      | ok receiver' => exact resolveMember_congr hsame (hfollowing.of_following hbound)
  | call receiver method args type ihReceiver ihArgs =>
      obtain ⟨hparts, hfollowing⟩ := sameAnswers_append.mp h
      rw [visit, visit, visitOption_congr ihReceiver hparts]
      cases hbound : t.visitOption select receiver with
      | error fault => rfl
      | ok receiver' =>
          obtain ⟨hargs, hfollowing⟩ := sameAnswers_append.mp (hfollowing.of_following hbound)
          simp only [visitAll_congr ihArgs hargs]
          cases hboundArgs : t.visitAll select args with
          | error fault => rfl
          | ok args' => exact resolveCall_congr hsame (hfollowing.of_following hboundArgs)
  | binary op left right type ihLeft ihRight =>
      obtain ⟨hleft, hfollowing⟩ := sameAnswers_append.mp h
      rw [visit, visit, ihLeft hleft]
      cases hbound : t.visit select left with
      | error fault => rfl
      | ok left' => rw [ihRight (hfollowing.of_following hbound)]
  | unary op operand type ih =>
      rw [visit, visit, ih h]
      simp only [resolveUnary_congr hsame]
  | _ => rfl

theorem translate_congr (hsame : SameLookups t t' select select')
    (h : t'.visit select' e' = t.visit select e) (condition : Bool) :
    t'.translate select' e' condition = t.translate select e condition := by
  have htoScalar : ∀ d, t'.toScalar d = t.toScalar d := by
    intro d
    unfold toScalar
    simp only [hsame.source]
  have hflag : ∀ s, t'.flag condition s = t.flag condition s := by
    intro s
    rw [flag, flag, hsame.boolMapping]
  simp only [translate, h, htoScalar, hflag]

theorem translateChecked_congr (hsame : SameLookups t t' select select')
    (h : t'.visit select' e' = t.visit select e) (condition : Bool) :
    t'.translateChecked select' e' condition = t.translateChecked select e condition := by
  rw [translateChecked, translateChecked, translate_congr hsame h]

end Translator

/-! ## More rules -/

theorem RuleSet.rewriteCall?_addCalls (rules : RuleSet) (batch : List CallRule)
    (call : MethodCall) :
    (rules.addCalls batch).rewriteCall? call =
      (batch.findSome? (·.rewrite? call)).or (rules.rewriteCall? call) := by
  simp [addCalls, rewriteCall?, List.findSome?_append]

theorem RuleSet.rewriteMember?_addMembers (rules : RuleSet) (batch : List MemberRule)
    (access : MemberAccess) :
    (rules.addMembers batch).rewriteMember? access =
      (batch.findSome? (·.rewrite? access)).or (rules.rewriteMember? access) := by
  simp [addMembers, rewriteMember?, List.findSome?_append]

namespace Translator

variable {t : Translator} {select : Select} {e : Expr} {calls : List CallRule}
  {members : List MemberRule}

def extend (t : Translator) (calls : List CallRule) (members : List MemberRule) : Translator :=
  { t with rules := (t.rules.addCalls calls).addMembers members }

theorem sameAnswers_extend {asked : List Inquiry}
    (hcalls : ∀ call, .call call ∈ asked → ∀ rule ∈ calls, rule.rewrite? call = none)
    (hmembers : ∀ access, .member access ∈ asked → ∀ rule ∈ members, rule.rewrite? access = none) :
    SameAnswers t (t.extend calls members) asked := by
  intro inquiry hinquiry
  cases inquiry with
  | call call =>
      have hnone : calls.findSome? (·.rewrite? call) = none :=
        List.findSome?_eq_none_iff.mpr (hcalls call hinquiry)
      have hadded := t.rules.rewriteCall?_addCalls calls call
      rw [hnone, Option.none_or] at hadded
      exact hadded
  | member access =>
      have hnone : members.findSome? (·.rewrite? access) = none :=
        List.findSome?_eq_none_iff.mpr (hmembers access hinquiry)
      have hadded := (t.rules.addCalls calls).rewriteMember?_addMembers members access
      rw [hnone, Option.none_or] at hadded
      exact hadded

/--
Rules that decline all that the translator asks about an expression can be added in
front without any effect on its translation.  No rules whatsoever have an effect on
the access to a property of a row.
-/
theorem translate_extend (t : Translator) (select : Select) (e : Expr) (condition : Bool) :
    (∀ calls members,
      (∀ call, .call call ∈ t.inquiries select e → ∀ rule ∈ calls, rule.rewrite? call = none) →
      (∀ access, .member access ∈ t.inquiries select e →
        ∀ rule ∈ members, rule.rewrite? access = none) →
      (t.extend calls members).translate select e condition = t.translate select e condition ∧
      (t.extend calls members).translateChecked select e condition =
        t.translateChecked select e condition) ∧
    ∀ rules entity buffer name type,
      let access := (Expr.row entity buffer).get name type
      { t with rules }.translate select access condition =
        t.translate select access condition ∧
      { t with rules }.translateChecked select access condition =
        t.translateChecked select access condition := by
  constructor
  · intro calls members hcalls hmembers
    have hsame : SameLookups t (t.extend calls members) select select :=
      sameLookups_of_rules t _ select
    have hvisit : (t.extend calls members).visit select e = t.visit select e :=
      visit_congr hsame (sameAnswers_extend hcalls hmembers)
    exact ⟨translate_congr hsame hvisit condition, translateChecked_congr hsame hvisit condition⟩
  · intro rules entity buffer name type access
    have hsame : SameLookups t { t with rules } select select :=
      sameLookups_of_rules t rules select
    have hnone : t.inquiries select access = [] := rfl
    have hvisit : { t with rules }.visit select access = t.visit select access :=
      visit_congr hsame (by simp [SameAnswers, hnone])
    exact ⟨translate_congr hsame hvisit condition, translateChecked_congr hsame hvisit condition⟩

theorem translate_extend_greeting :
    let greet := CallRule.ofTemplate "greet" ⟨some "Greet", none, none, none⟩ .receiver
    let numbers := CallRule.ofTemplate "numbers" ⟨some "Equals", some "i32", none, none⟩
      (.fragment "1 = 1" .bool)
    let year := MemberRule.ofTemplate "year" ⟨some "Year", none⟩ (.receiverFunction "YEAR")
    let zero := MemberRule.ofTemplate "zero" ⟨none, none⟩ (.fragment "0" .int32)
    let name := Expr.get Customers.query.row "Name" .string
    let e := operation (equalsCall name (literal (.string "Ann"))) .andAlso
      (operation (Expr.get name "Length" .int32) .lessThan (literal (.int 9)))
    let select := Customers.query.select
    (Customers.translator.inquiries select e).length = 2 ∧
    (Customers.translator.extend [greet, numbers] [year]).translate select e true =
      Customers.translator.translate select e true ∧
    { Customers.translator with rules := ⟨[], [zero]⟩ }.translate select name false =
      Customers.translator.translate select name false := by
  intro greet numbers year zero name e select
  have hinquiries : Customers.translator.inquiries select e =
      [.call ⟨some (.scalar (.column ⟨"full_name", "c", .string, false⟩)
          (some ⟨"text", .string⟩) false), ⟨"string", "Equals"⟩,
          [.constant (.string "Ann") .string], .bool⟩,
        .member ⟨some (.scalar (.column ⟨"full_name", "c", .string, false⟩)
          (some ⟨"text", .string⟩) false), "Length", .int32⟩] := rfl
  have hextend := translate_extend Customers.translator select e true
  have hname := translate_extend Customers.translator select name false
  refine ⟨by rw [hinquiries]; rfl, ?_, ?_⟩
  · refine (hextend.1 [greet, numbers] [year] ?_ ?_).1
    · rw [hinquiries]
      intro call hcall rule hrule
      simp only [List.mem_cons, List.not_mem_nil, or_false, reduceCtorEq, Inquiry.call.injEq]
        at hcall hrule
      subst hcall
      rcases hrule with rfl | rfl
      · rfl
      · rfl
    · rw [hinquiries]
      intro access haccess rule hrule
      simp only [List.mem_cons, List.not_mem_nil, or_false, reduceCtorEq, Inquiry.member.injEq,
        false_or] at haccess hrule
      subst haccess hrule
      rfl
  · exact (hname.2 ⟨[], [zero]⟩ Customers.entity (.projected .root .object) "Name" .string).1

end Translator

end QueryBinding
