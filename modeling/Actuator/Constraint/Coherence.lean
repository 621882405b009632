import Actuator.Constraint.NumberLiterals

/-!
# How the comparisons fit together

Truth values and texts are compared in their order, so that the six operators
agree with each other. Numbers that differ by less than `1e-9` are equal for
`==` and `!=`, and in their order for the others, which do not allow for the
difference (`compare_coherent_iff`). `double` is taken to be exact.
-/

namespace Actuator.Constraint

open Actuator.Lib Actuator.Executor

/-! ## Coherence -/

def ExactlyOne (p q r : Bool) : Prop :=
  p = true ∧ q = false ∧ r = false ∨ p = false ∧ q = true ∧ r = false ∨ p = false ∧ q = false ∧ r = true

/-- The operators, with these results for one pair of values, agree with each other. -/
structure Coherent (holds : CompareOp → Bool) : Prop where
  ne : holds .ne = !holds .eq
  one : ExactlyOne (holds .lt) (holds .eq) (holds .gt)
  le : holds .le = true ↔ holds .lt = true ∨ holds .eq = true
  ge : holds .ge = true ↔ holds .gt = true ∨ holds .eq = true

/-- The results of the operators in an order. -/
def inOrder {α : Type} (eq lt : α → α → Bool) (l r : α) : CompareOp → Bool
  | .eq | .assign => eq l r
  | .ne => !eq l r
  | .lt => lt l r
  | .gt => lt r l
  | .le => !lt r l
  | .ge => !lt l r

theorem compareBy_text {α : Type} (eq lt : α → α → Bool) (op : CompareOp) (l r : α) :
    compareBy eq lt op.text l r = some (inOrder eq lt l r op) := by
  cases op <;> rfl

/-- In an order in which one of two is less or they are equal, the operators agree. -/
theorem coherent_inOrder {α : Type} {eq lt : α → α → Bool} {l r : α} (one : ExactlyOne (lt l r) (eq l r) (lt r l)) :
    Coherent (inOrder eq lt l r) := by
  refine ⟨rfl, one, ?_, ?_⟩
  · show (!lt r l) = true ↔ lt l r = true ∨ eq l r = true
    rcases one with ⟨less, same, greater⟩ | ⟨less, same, greater⟩ | ⟨less, same, greater⟩ <;>
      simp [less, same, greater]
  · show (!lt l r) = true ↔ lt r l = true ∨ eq l r = true
    rcases one with ⟨less, same, greater⟩ | ⟨less, same, greater⟩ | ⟨less, same, greater⟩ <;>
      simp [less, same, greater]

theorem exactlyOne_bools (l r : Bool) : ExactlyOne (!l && r) (l == r) (!r && l) := by
  unfold ExactlyOne
  revert l r
  decide

/-- In a linear order one of two is less, or they are equal. -/
theorem exactlyOne_linear {α : Type} [LinearOrder α] (a b : α) [Decidable (a < b)] [Decidable (a = b)]
    [Decidable (b < a)] : ExactlyOne (decide (a < b)) (decide (a = b)) (decide (b < a)) := by
  rcases lt_trichotomy a b with less | same | greater
  · exact Or.inl ⟨decide_eq_true less, decide_eq_false less.ne, decide_eq_false less.not_gt⟩
  · exact Or.inr (Or.inl ⟨decide_eq_false same.not_lt, decide_eq_true same, decide_eq_false same.symm.not_lt⟩)
  · exact Or.inr (Or.inr ⟨decide_eq_false greater.not_gt, decide_eq_false greater.ne', decide_eq_true greater⟩)

theorem exactlyOne_texts (s t : Str) : ExactlyOne (decide (s < t)) (s == t) (decide (t < s)) := by
  rw [Bool.beq_eq_decide_eq]
  exact exactlyOne_linear s t

/-! ## The three kinds of comparison -/

section

variable {D : Type} [CxxDouble D] {left right : VariableValue D}

theorem compare_bools (bool : isBoolValue left = true ∨ isBoolValue right = true) (op : CompareOp) :
    compare left op.text right = inOrder (· == ·) (fun a b => !a && b) (toBool left) (toBool right) op := by
  unfold compare
  rw [if_pos bool, compareBy_text]

theorem compare_texts (noBool : ¬(isBoolValue left = true ∨ isBoolValue right = true))
    (text : isStringValue left = true ∨ isStringValue right = true) (op : CompareOp) :
    compare left op.text right = inOrder (· == ·) (fun a b => decide (a < b)) left.asString right.asString op := by
  unfold compare
  rw [if_neg noBool, if_pos text, compareBy_text]

end

/-- Two values that are neither truth values nor texts nor unset are numbers. -/
theorem numbers_of_others {left : VariableValue ℚ} (set : left ≠ .unknown) (noBool : isBoolValue left ≠ true)
    (noText : isStringValue left ≠ true) : ∃ a, NumberOf left a := by
  cases left with
  | int n => exact ⟨_, .int n⟩
  | double x => exact ⟨_, .double x⟩
  | string s => exact absurd rfl noText
  | bool b => exact absurd rfl noBool
  | unknown => exact absurd rfl set

theorem NumberOf.unique {v : VariableValue ℚ} {a b : ℚ} (first : NumberOf v a) (second : NumberOf v b) : a = b := by
  cases first <;> cases second <;> rfl

/-- Equal numbers and numbers that are far enough apart are compared coherently, and no others are. -/
theorem coherent_numbers_iff (a b : ℚ) :
    Coherent (fun op => op.onNumbers a b) ↔ a = b ∨ 1 / 10 ^ 9 ≤ |a - b| := by
  constructor
  · intro coherent
    by_contra condition
    obtain ⟨differ, near⟩ := not_or.1 condition
    have equal : CompareOp.eq.onNumbers a b = true := decide_eq_true (not_le.1 near)
    rcases coherent.one with ⟨-, unequal, -⟩ | ⟨notLess, -, notGreater⟩ | ⟨-, unequal, -⟩
    · exact absurd equal (ne_true_of_eq_false unequal)
    · have le : b ≤ a := not_lt.1 (of_decide_eq_false notLess)
      have ge : a ≤ b := not_lt.1 (of_decide_eq_false notGreater)
      exact differ (le_antisymm ge le)
    · exact absurd equal (ne_true_of_eq_false unequal)
  · intro condition
    have near : |a - b| < 1 / 10 ^ 9 ↔ a = b := by
      constructor
      · exact fun near => condition.resolve_right (not_le.2 near)
      · rintro rfl
        rw [sub_self, abs_zero]
        positivity
    have ordered : (fun op : CompareOp => op.onNumbers a b) =
        inOrder (fun x y : ℚ => decide (x = y)) (fun x y => decide (x < y)) a b := by
      funext op
      cases op with
      | eq => exact decide_eq_decide.2 near
      | assign => exact decide_eq_decide.2 near
      | ne => exact (decide_eq_decide.2 (not_lt.symm.trans (not_congr near))).trans (decide_not)
      | lt => rfl
      | gt => rfl
      | le => exact (decide_eq_decide.2 not_lt.symm).trans decide_not
      | ge => exact (decide_eq_decide.2 not_lt.symm).trans decide_not
    rw [ordered]
    exact coherent_inOrder (exactlyOne_linear a b)

/-- The six operators agree with each other on every pair of values, except for numbers that differ by less than `1e-9`. -/
theorem compare_coherent_iff (left right : VariableValue ℚ) (leftSet : left ≠ .unknown) (rightSet : right ≠ .unknown) :
    Coherent (fun op => compare left op.text right) ↔
      ∀ a b, NumberOf left a → NumberOf right b → a = b ∨ 1 / 10 ^ 9 ≤ |a - b| := by
  by_cases bool : isBoolValue left = true ∨ isBoolValue right = true
  · have noNumbers : ∀ a b, NumberOf left a → NumberOf right b → False := by
      rintro a b leftNumber rightNumber
      cases leftNumber <;> cases rightNumber <;> simp [isBoolValue] at bool
    rw [funext (compare_bools bool)]
    exact iff_of_true (coherent_inOrder (exactlyOne_bools _ _)) fun a b first second =>
      (noNumbers a b first second).elim
  by_cases text : isStringValue left = true ∨ isStringValue right = true
  · have noNumbers : ∀ a b, NumberOf left a → NumberOf right b → False := by
      rintro a b leftNumber rightNumber
      cases leftNumber <;> cases rightNumber <;> simp [isStringValue] at text
    rw [funext (compare_texts bool text)]
    exact iff_of_true (coherent_inOrder (exactlyOne_texts _ _)) fun a b first second =>
      (noNumbers a b first second).elim
  obtain ⟨noLeftBool, noRightBool⟩ := not_or.1 bool
  obtain ⟨noLeftText, noRightText⟩ := not_or.1 text
  obtain ⟨a, first⟩ := numbers_of_others leftSet noLeftBool noLeftText
  obtain ⟨b, second⟩ := numbers_of_others rightSet noRightBool noRightText
  rw [funext (compare_numbers first second), coherent_numbers_iff]
  constructor
  · intro condition a' b' first' second'
    rw [first.unique first', second.unique second'] at condition
    exact condition
  · exact fun condition => condition a b first second

/-- The numbers 2 and 2.5 are far enough apart. -/
theorem compare_coherent_sample :
    Coherent fun op => compare (.int 2 : VariableValue ℚ) op.text (.double (5 / 2)) := by
  refine (compare_coherent_iff _ _ (by simp) (by simp)).2 ?_
  rintro a b ⟨⟩ ⟨⟩
  right
  have two : (2 : Int32).toInt = 2 := rfl
  rw [two]
  norm_num

/-- Two numbers that are equal and of which one is less; the operator `<=` denies what `==` says. -/
theorem compare_incoherent :
    compare (.double 0 : VariableValue ℚ) (lit "<") (.double (1 / 10 ^ 10)) = true ∧
      compare (.double 0 : VariableValue ℚ) (lit "==") (.double (1 / 10 ^ 10)) = true ∧
      compare (.double (1 / 10 ^ 10) : VariableValue ℚ) (lit "==") (.double 0) = true ∧
      compare (.double (1 / 10 ^ 10) : VariableValue ℚ) (lit "<=") (.double 0) = false := by
  decide +kernel

end Actuator.Constraint
