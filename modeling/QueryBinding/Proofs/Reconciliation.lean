import QueryBinding.Expr.Build
import QueryBinding.Proofs.Bare

/-!
# Reconciled operands

Reconciliation completes the operands of a binary node: one that waits for a mapping takes
that of the other, and everything else stays as it is.  Nothing is left to complete after
that, the two sides are treated alike, and below the scalars of the operands the node is
the one that it was.
-/

namespace QueryBinding.Expr

variable {e operand other : Expr} {mapping : TypeMapping}

def unwrapped : Expr → Expr
  | .scalar inner _ _ => inner
  | e => e

def swapOperands : Expr → Expr
  | .binary op left right type => .binary op right left type
  | e => e

def unwrapOperands : Expr → Expr
  | .binary op left right type => .binary op left.unwrapped right.unwrapped type
  | e => e

/-- What becomes of an operand beside another one. -/
structure CompletedBeside (operand other result : Expr) : Prop where
  mapped : operand.mapping?.isSome → result = operand
  condition : ∀ inner mapping, operand = .scalar inner mapping true → result = operand
  compound : operand.isScalar = false → operand.isInput = false → result = operand
  sent : ∀ mapping, other.mapping? = some mapping → operand.awaitsMapping = true →
    result = .scalar operand.unwrapped (some mapping) false
  changed : result ≠ operand → ∃ mapping, other.mapping? = some mapping ∧
    result = .scalar operand.unwrapped (some mapping) false

/-! ## One operand -/

theorem adopt_of_awaitsMapping (h : e.awaitsMapping = true) (mapping : TypeMapping) :
    e.adopt mapping = .scalar e.unwrapped (some mapping) false := by
  unfold awaitsMapping at h
  split at h
  · rfl
  · rfl
  · rfl
  · cases h

theorem unwrapped_adopt (mapping : TypeMapping) (e : Expr) :
    (e.adopt mapping).unwrapped = e.unwrapped := by
  cases h : e.awaitsMapping with
  | true => rw [adopt_of_awaitsMapping h, unwrapped]
  | false => rw [adopt_of_awaitsMapping_eq_false h]

theorem awaitsMapping_eq_false_of_compound (hscalar : e.isScalar = false)
    (hinput : e.isInput = false) : e.awaitsMapping = false := by
  cases e with
  | scalar => cases hscalar
  | constant | parameter => cases hinput
  | _ => rfl

theorem completedBeside_self (h : other.mapping?.isSome → operand.awaitsMapping = false) :
    operand.CompletedBeside other operand where
  mapped _ := rfl
  condition _ _ _ := rfl
  compound _ _ := rfl
  sent mapping hmapping hawaits := by
    rw [h (by rw [hmapping]; rfl)] at hawaits
    contradiction
  changed hne := absurd rfl hne

theorem completedBeside_adopt (hmapping : other.mapping? = some mapping) :
    operand.CompletedBeside other (operand.adopt mapping) := by
  cases hawaits : operand.awaitsMapping with
  | false =>
      rw [adopt_of_awaitsMapping_eq_false hawaits]
      exact completedBeside_self fun _ => hawaits
  | true =>
      rw [adopt_of_awaitsMapping hawaits]
      constructor
      case mapped =>
        intro hmapped
        rw [awaitsMapping_of_isSome hmapped] at hawaits
        contradiction
      case condition =>
        rintro inner mapping rfl
        cases mapping <;> cases hawaits
      case compound =>
        intro hscalar hinput
        rw [awaitsMapping_eq_false_of_compound hscalar hinput] at hawaits
        contradiction
      case sent =>
        intro given hgiven _
        rw [hmapping] at hgiven
        rw [Option.some.inj hgiven]
      case changed =>
        intro _
        exact ⟨mapping, hmapping, rfl⟩

/-! ## Both operands -/

theorem completedBeside_reconcileOperands (left right : Expr) :
    left.CompletedBeside right (reconcileOperands left right).1 ∧
      right.CompletedBeside left (reconcileOperands left right).2 := by
  rcases reconcileOperands_cases left right with
    ⟨mapping, hleft, hright, heq⟩ | ⟨mapping, hleft, hright, heq⟩ | ⟨hsame, heq⟩
  · rw [heq]
    exact ⟨completedBeside_self fun h => by simp [hright] at h, completedBeside_adopt hleft⟩
  · rw [heq]
    exact ⟨completedBeside_adopt hright, completedBeside_self fun h => by simp [hleft] at h⟩
  · rw [heq]
    exact ⟨completedBeside_self fun h => awaitsMapping_of_isSome (hsame.trans h),
      completedBeside_self fun h => awaitsMapping_of_isSome (hsame.symm.trans h)⟩

theorem unwrapped_reconcileOperands (left right : Expr) :
    (reconcileOperands left right).1.unwrapped = left.unwrapped ∧
      (reconcileOperands left right).2.unwrapped = right.unwrapped := by
  unfold reconcileOperands
  split <;> simp [unwrapped_adopt]

theorem reconcileOperands_swap (left right : Expr) :
    reconcileOperands right left = (reconcileOperands left right).swap := by
  unfold reconcileOperands
  cases left.mapping? <;> cases right.mapping? <;> rfl

/-! ## Binary nodes -/

theorem reconcile_swapOperands (e : Expr) :
    e.swapOperands.reconcile = e.reconcile.swapOperands := by
  cases e with
  | binary op left right type =>
      simp only [swapOperands, reconcile, reconcileOperands_swap left right, Prod.fst_swap,
        Prod.snd_swap]
  | _ => rfl

theorem unwrapOperands_reconcile (e : Expr) : e.reconcile.unwrapOperands = e.unwrapOperands := by
  cases e with
  | binary op left right type =>
      obtain ⟨hleft, hright⟩ := unwrapped_reconcileOperands left right
      simp only [reconcile, unwrapOperands, hleft, hright]
  | _ => rfl

/--
Reconciling twice is reconciling once, and it makes no difference which operand stands on
which side.  Without the scalars that the operands are, the node is the same as before, and
so is its text.  The operator and the type are kept, and an operand changes by nothing but
taking the mapping of the other one.
-/
theorem reconcile_completes :
    (∀ e : Expr,
      e.reconcile.reconcile = e.reconcile ∧
      e.swapOperands.reconcile = e.reconcile.swapOperands ∧
      e.reconcile.unwrapOperands = e.unwrapOperands ∧
      e.reconcile.render = e.render) ∧
    ∀ op left right type, ∃ left' right',
      (Expr.binary op left right type).reconcile = .binary op left' right' type ∧
      left.CompletedBeside right left' ∧ right.CompletedBeside left right' := by
  constructor
  · intro e
    exact ⟨reconcile_reconcile e, reconcile_swapOperands e, unwrapOperands_reconcile e,
      render_reconcile e⟩
  · intro op left right type
    obtain ⟨hleft, hright⟩ := completedBeside_reconcileOperands left right
    exact ⟨_, _, rfl, hleft, hright⟩

example :
    let text : TypeMapping := ⟨"text", .string⟩
    let name := Expr.scalar (.column ⟨"Name", "c", .string, false⟩) (some text) false
    (operation (literal (.int 42)) .equal name).reconcile =
      .binary .equal (.scalar (literal (.int 42)) (some text) false) name .bool :=
  rfl

end QueryBinding.Expr
