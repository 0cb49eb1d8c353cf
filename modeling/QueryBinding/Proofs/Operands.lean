import QueryBinding.Reconcile
import QueryBinding.Rewrite.Equality

/-!
# Operands beside each other

The reconciliation of binary nodes and the rewriting of equality calls each send an
operand with the mapping of the other one.  They treat operands without a mapping
differently, yet over what comes out of binding both leave a pair in which neither
operand still waits for a mapping that the other one has.
-/

namespace QueryBinding.Expr

variable {e left right left' right' : Expr} {mapping : TypeMapping}

def isInput : Expr → Bool
  | .constant .. | .parameter .. => true
  | _ => false

def awaitsMapping : Expr → Bool
  | .constant .. | .parameter .. | .scalar _ none false => true
  | _ => false

/--
Beside a mapped operand nothing waits for a mapping, and an input in a scalar is
sent with the mapping of the other operand, a scalar as well.
-/
structure Fits (operand other : Expr) : Prop where
  mapped : other.mapping?.isSome → operand.awaitsMapping = false
  input : ∀ inner mapping isCondition, operand = .scalar inner mapping isCondition →
    inner.isInput → ∃ content flag, other = .scalar content mapping flag

def Matched (left right : Expr) : Prop :=
  left.Fits right ∧ right.Fits left

theorem Matched.symm (h : left.Matched right) : right.Matched left :=
  ⟨h.2, h.1⟩

/-! ## Adopting a mapping -/

theorem mapping?_eq_some_iff :
    e.mapping? = some mapping ↔ ∃ content flag, e = .scalar content (some mapping) flag := by
  cases e <;> simp [mapping?]

theorem awaitsMapping_of_isSome (h : e.mapping?.isSome) : e.awaitsMapping = false := by
  obtain ⟨mapping, hmapping⟩ := Option.isSome_iff_exists.mp h
  obtain ⟨content, flag, rfl⟩ := mapping?_eq_some_iff.mp hmapping
  rfl

theorem awaitsMapping_adopt (mapping : TypeMapping) (e : Expr) :
    (e.adopt mapping).awaitsMapping = false := by
  unfold adopt
  split
  · rfl
  · rfl
  · rfl
  · next hvalue hconstant hparameter =>
      unfold awaitsMapping
      split
      · exact (hconstant _ _ rfl).elim
      · exact (hparameter _ _ rfl).elim
      · exact (hvalue _ rfl).elim
      · rfl

theorem adopt_of_awaitsMapping_eq_false (h : e.awaitsMapping = false) (mapping : TypeMapping) :
    e.adopt mapping = e := by
  unfold adopt
  split
  · cases h
  · cases h
  · cases h
  · rfl

theorem adopt_of_isInput (h : e.isInput) (mapping : TypeMapping) :
    e.adopt mapping = .scalar e (some mapping) false := by
  cases e with
  | constant | parameter => rfl
  | _ => cases h

theorem reconcileOperands_cases (left right : Expr) :
    (∃ mapping, left.mapping? = some mapping ∧ right.mapping? = none ∧
      reconcileOperands left right = (left, right.adopt mapping)) ∨
    (∃ mapping, left.mapping? = none ∧ right.mapping? = some mapping ∧
      reconcileOperands left right = (left.adopt mapping, right)) ∨
    left.mapping?.isSome = right.mapping?.isSome ∧
      reconcileOperands left right = (left, right) := by
  unfold reconcileOperands
  cases hleft : left.mapping? <;> cases hright : right.mapping? <;> simp

theorem awaitsMapping_of_reconcileOperands
    (h : reconcileOperands left right = (left', right')) :
    (right'.mapping?.isSome → left'.awaitsMapping = false) ∧
      (left'.mapping?.isSome → right'.awaitsMapping = false) := by
  rcases reconcileOperands_cases left right with
    ⟨mapping, hleft, hright, heq⟩ | ⟨mapping, hleft, hright, heq⟩ | ⟨hsame, heq⟩
  · cases h.symm.trans heq
    exact ⟨fun _ => awaitsMapping_of_isSome (by rw [hleft]; rfl),
      fun _ => awaitsMapping_adopt mapping right⟩
  · cases h.symm.trans heq
    exact ⟨fun _ => awaitsMapping_adopt mapping left,
      fun _ => awaitsMapping_of_isSome (by rw [hright]; rfl)⟩
  · cases h.symm.trans heq
    exact ⟨fun hmapped => awaitsMapping_of_isSome (hsame.trans hmapped),
      fun hmapped => awaitsMapping_of_isSome (hsame.symm.trans hmapped)⟩

theorem reconcileOperands_eq_self (hleft : right.mapping?.isSome → left.awaitsMapping = false)
    (hright : left.mapping?.isSome → right.awaitsMapping = false) :
    reconcileOperands left right = (left, right) := by
  rcases reconcileOperands_cases left right with
    ⟨mapping, hl, -, heq⟩ | ⟨mapping, -, hr, heq⟩ | ⟨-, heq⟩
  · rw [heq, adopt_of_awaitsMapping_eq_false (hright (by rw [hl]; rfl))]
  · rw [heq, adopt_of_awaitsMapping_eq_false (hleft (by rw [hr]; rfl))]
  · exact heq

theorem reconcile_reconcile (e : Expr) : e.reconcile.reconcile = e.reconcile := by
  cases e with
  | binary op left right type =>
      obtain ⟨hleft, hright⟩ := awaitsMapping_of_reconcileOperands
        (Prod.eta (reconcileOperands left right)).symm
      simp only [reconcile, reconcileOperands_eq_self hleft hright]
  | _ => rfl

/-! ## Operands that come out of binding -/

theorem mapping?_eq_bind (e : Expr) : e.mapping? = e.asScalar?.bind Scalar.mapping := by
  cases e <;> rfl

theorem asScalar?_eq_some_iff {s : Scalar} : e.asScalar? = some s ↔ e = s.toExpr := by
  obtain ⟨inner, mapping, isCondition⟩ := s
  cases e <;> simp [asScalar?, Scalar.toExpr]

/--
A scalar that comes out of binding has a mapping or is a condition, and it holds no
input.  Nothing is asked of other expressions.
-/
def IsComplete (e : Expr) : Prop :=
  ∀ inner mapping isCondition, e = .scalar inner mapping isCondition →
    (mapping.isSome ∨ isCondition = true) ∧ inner.isInput = false

theorem isComplete_of_isScalar_eq_false (h : e.isScalar = false) : e.IsComplete := by
  rintro inner mapping isCondition rfl
  cases h

theorem IsComplete.awaitsMapping_eq (h : e.IsComplete) : e.awaitsMapping = e.isInput := by
  cases e with
  | scalar inner mapping isCondition =>
      obtain ⟨hsent, -⟩ := h inner mapping isCondition rfl
      cases mapping with
      | some => rfl
      | none =>
          cases isCondition with
          | true => rfl
          | false => simp at hsent
  | _ => rfl

theorem IsComplete.fits {other : Expr} (h : e.IsComplete)
    (hmapped : other.mapping?.isSome → e.awaitsMapping = false) : e.Fits other where
  mapped := hmapped
  input := by
    intro inner mapping isCondition heq hinput
    rw [(h inner mapping isCondition heq).2] at hinput
    contradiction

theorem matched_value {content : Expr} {mapping : Option TypeMapping} {flag : Bool}
    (h : (Expr.scalar content mapping flag).IsComplete) (e : Expr) :
    (Expr.scalar content mapping flag).Matched (.scalar e mapping false) := by
  have hleft : (Expr.scalar content mapping flag).awaitsMapping = false := h.awaitsMapping_eq
  refine ⟨h.fits fun _ => hleft, ?_, ?_⟩
  · intro hmapped
    exact awaitsMapping_of_isSome hmapped
  · intro inner sent isCondition heq _
    cases heq
    exact ⟨content, flag, rfl⟩

inductive SentAs (e : Expr) : Expr → Prop
  | same : SentAs e e
  | value (mapping : Option TypeMapping) (hscalar : e.isScalar = false) :
      SentAs e (.scalar e mapping false)

theorem matched_adopt (hleft : left.IsComplete) (hright : right.IsComplete)
    (hmapping : left.mapping? = some mapping) :
    right.SentAs (right.adopt mapping) ∧ left.Matched (right.adopt mapping) := by
  obtain ⟨content, flag, rfl⟩ := mapping?_eq_some_iff.mp hmapping
  cases hinput : right.isInput with
  | true =>
      have hscalar : right.isScalar = false := by
        cases right with
        | scalar => cases hinput
        | _ => rfl
      rw [adopt_of_isInput hinput]
      exact ⟨.value (some mapping) hscalar, matched_value hleft right⟩
  | false =>
      have hawaits := hright.awaitsMapping_eq.trans hinput
      rw [adopt_of_awaitsMapping_eq_false hawaits]
      exact ⟨.same, hleft.fits fun _ => rfl, hright.fits fun _ => hawaits⟩

theorem matched_reconcileOperands (hleft : left.IsComplete) (hright : right.IsComplete)
    (h : reconcileOperands left right = (left', right')) :
    left.SentAs left' ∧ right.SentAs right' ∧ left'.Matched right' := by
  have hawaits := awaitsMapping_of_reconcileOperands h
  rcases reconcileOperands_cases left right with
    ⟨mapping, hl, -, heq⟩ | ⟨mapping, -, hr, heq⟩ | ⟨-, heq⟩
  · cases h.symm.trans heq
    obtain ⟨hsent, hmatched⟩ := matched_adopt hleft hright hl
    exact ⟨.same, hsent, hmatched⟩
  · cases h.symm.trans heq
    obtain ⟨hsent, hmatched⟩ := matched_adopt hright hleft hr
    exact ⟨hsent, .same, hmatched.symm⟩
  · cases h.symm.trans heq
    exact ⟨.same, .same, hleft.fits hawaits.1, hright.fits hawaits.2⟩

theorem matched_alignOperands (hleft : left.IsComplete) (hright : right.IsComplete)
    (h : Equality.alignOperands left right = (left', right')) :
    left.SentAs left' ∧ right.SentAs right' ∧ left'.Matched right' := by
  unfold Equality.alignOperands at h
  cases hl : left.asScalar? with
  | some scalar =>
      obtain rfl := asScalar?_eq_some_iff.mp hl
      cases hr : right.asScalar? with
      | some other =>
          obtain rfl := asScalar?_eq_some_iff.mp hr
          cases h
          exact ⟨.same, .same, hleft.fits fun _ => hleft.awaitsMapping_eq,
            hright.fits fun _ => hright.awaitsMapping_eq⟩
      | none =>
          rw [hl, hr] at h
          cases h
          exact ⟨.same, .value _ (by rw [isScalar, hr]; rfl), matched_value hleft right⟩
  | none =>
      cases hr : right.asScalar? with
      | some scalar =>
          obtain rfl := asScalar?_eq_some_iff.mp hr
          rw [hl, hr] at h
          cases h
          exact ⟨.value _ (by rw [isScalar, hl]; rfl), .same, (matched_value hright left).symm⟩
      | none =>
          rw [hl, hr] at h
          cases h
          refine ⟨.same, .same, hleft.fits ?_, hright.fits ?_⟩
          · simp [mapping?_eq_bind, hr]
          · simp [mapping?_eq_bind, hl]

end QueryBinding.Expr
