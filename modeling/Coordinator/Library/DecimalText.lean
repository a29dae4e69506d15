import Mathlib.Data.Nat.Digits.Defs
import Mathlib.Data.Rat.Defs
import Mathlib.Algebra.Order.Ring.Rat
import Mathlib.Tactic.Tauto

/-! Numerals compared as text. Two decimal numerals of one length sort as the
numbers do; of two lengths, the longer one is cut to the length of the shorter.
A decimal fraction after the second numeral only counts when the numerals are equal. -/

namespace DecimalText

/-- The number of digits of the numeral, one for zero. -/
def numDigits (n : Nat) : Nat := (Nat.toDigits 10 n).length

theorem numDigits_le_iff {n k : Nat} (positive : 0 < k) : numDigits n ≤ k ↔ n < 10 ^ k :=
  Nat.length_toDigits_le_iff (by decide) positive

theorem toDigits_inj {m n : Nat} : Nat.toDigits 10 m = Nat.toDigits 10 n ↔ m = n := by
  constructor
  · intro same
    have value := congrArg (fun digits => Nat.ofDigitChars 10 digits 0) same
    simpa using value
  · intro same
    subst same
    rfl

/-- The order of two numerals as text, in arithmetic. -/
def Below (m n : Nat) : Prop :=
  (numDigits m = numDigits n ∧ m < n) ∨
    (numDigits n < numDigits m ∧ m / 10 ^ (numDigits m - numDigits n) < n) ∨
    (numDigits m < numDigits n ∧ m ≤ n / 10 ^ (numDigits n - numDigits m))

theorem digit_toNat {n : Nat} {c : Char} (member : c ∈ Nat.toDigits 10 n) : 48 ≤ c.toNat := by
  have digit : c.isDigit := Nat.isDigit_of_mem_toDigits (by decide) (by decide) member
  simp only [Char.isDigit, Bool.and_eq_true, decide_eq_true_eq, ge_iff_le] at digit
  exact UInt32.le_iff_toNat_le.mp digit.1

/-- A digit sorts after the minus sign and after the decimal point. -/
theorem lt_digit {n : Nat} {mark c : Char} (early : mark.toNat < 48) (member : c ∈ Nat.toDigits 10 n) :
    mark < c ∧ ¬ c < mark ∧ c ≠ mark := by
  have digit := digit_toNat member
  refine ⟨UInt32.lt_iff_toNat_lt.mpr (show mark.toNat < c.toNat by omega), fun below => ?_, ?_⟩
  · have contrary : c.toNat < mark.toNat := UInt32.lt_iff_toNat_lt.mp below
    omega
  · intro same
    subst same
    omega

/-- The text of a rational number with the given digits after the point. -/
def decimal (x : ℚ) (fraction : String) : String :=
  (if x.num < 0 then "-" else "") ++ toString (x.num.natAbs / x.den) ++ if x.den = 1 then "" else "." ++ fraction

theorem toList_toString (e : Int) :
    (toString e).toList = (if e < 0 then ['-'] else []) ++ Nat.toDigits 10 e.natAbs := by
  cases e with
  | ofNat n =>
    have nonneg : ¬ Int.ofNat n < 0 := by
      have := Int.natCast_nonneg n
      simp
    rw [if_neg nonneg]
    exact Nat.toList_repr
  | negSucc n =>
    rw [if_pos (Int.negSucc_lt_zero n)]
    show ("-" ++ (n + 1).repr).toList = _
    simp

theorem toString_inj {a b : Int} (same : toString a = toString b) : a = b := by
  have texts := congrArg String.toList same
  rw [toList_toString, toList_toString] at texts
  have early : ('-' : Char).toNat < 48 := by decide
  by_cases negA : a < 0 <;> by_cases negB : b < 0
  · rw [if_pos negA, if_pos negB] at texts
    have digits := toDigits_inj.mp (List.append_cancel_left texts)
    omega
  · rw [if_pos negA, if_neg negB, List.nil_append] at texts
    exact absurd rfl (lt_digit early (by rw [← texts]; simp)).2.2
  · rw [if_neg negA, if_pos negB, List.nil_append] at texts
    exact absurd rfl (lt_digit early (by rw [texts]; simp)).2.2
  · rw [if_neg negA, if_neg negB] at texts
    have digits := toDigits_inj.mp (List.append_cancel_left texts)
    omega

end DecimalText
