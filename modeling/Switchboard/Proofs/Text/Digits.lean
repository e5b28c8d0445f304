import Mathlib.Data.List.DropRight
import Switchboard.Json.Writer

/-!
# Rows of digits

The decimal digits of a number, and the number that a row of digits stands
for.  A row that does not begin with a zero is the decimal form of its number.
-/

namespace Switchboard.Text

/-- A row of ASCII digits. -/
def Digits (text : List Char) : Prop :=
  ∀ letter ∈ text, letter.isDigit = true

namespace Digits

variable {letter : Char} {run : List Char}

theorem head (digits : Digits (letter :: run)) : letter.isDigit = true :=
  digits letter List.mem_cons_self

theorem tail (digits : Digits (letter :: run)) : Digits run := by
  intro other member
  exact digits other (List.mem_cons_of_mem _ member)

end Digits

theorem digits_toDigits (value : Nat) : Digits (Nat.toDigits 10 value) := by
  intro letter member
  apply Nat.isDigit_of_mem_toDigits _ _ member <;> decide

theorem toNat_bounds_of_isDigit {letter : Char}
    (digit : letter.isDigit = true) :
    48 ≤ letter.toNat ∧ letter.toNat ≤ 57 := by
  simp only [Char.isDigit, Bool.and_eq_true, decide_eq_true_eq, ge_iff_le,
    UInt32.le_iff_toNat_le] at digit
  exact digit

private theorem digitChar_toNat_sub
    {letter : Char} (digit : letter.isDigit = true) :
    Nat.digitChar (letter.toNat - '0'.toNat) = letter := by
  obtain ⟨low, high⟩ := toNat_bounds_of_isDigit digit
  apply Char.toNat_inj.mp
  have zero : '0'.toNat = 48 := rfl
  rw [Nat.toNat_digitChar_of_lt_ten (by omega)]
  omega

theorem ofDigitChars_pos {letter : Char} {run : List Char}
    (digit : letter.isDigit = true) (leading : letter ≠ '0') :
    0 < Nat.ofDigitChars 10 (letter :: run) 0 := by
  obtain ⟨low, high⟩ := toNat_bounds_of_isDigit digit
  have zero : '0'.toNat = 48 := rfl
  have apart : letter.toNat ≠ 48 := by
    intro same
    exact leading (Char.toNat_inj.mp (same.trans zero.symm))
  rw [Nat.ofDigitChars_cons, Nat.ofDigitChars_eq_ofDigitChars_zero]
  apply Nat.lt_of_lt_of_le _ (Nat.le_add_right _ _)
  apply Nat.mul_pos
  · exact Nat.pow_pos (by decide)
  · omega

theorem toDigits_ofDigitChars {letter : Char} (leading : letter ≠ '0')
    {run : List Char} (digits : Digits (letter :: run)) :
    Nat.toDigits 10 (Nat.ofDigitChars 10 (letter :: run) 0) =
      letter :: run := by
  -- A row grows at its end, as the decimal form does.
  induction run using List.reverseRecOn with
  | nil =>
      obtain ⟨low, high⟩ := toNat_bounds_of_isDigit digits.head
      have zero : '0'.toNat = 48 := rfl
      rw [Nat.ofDigitChars_cons, Nat.ofDigitChars_nil,
        Nat.toDigits_of_lt_base (by omega), Nat.mul_zero, Nat.zero_add,
        digitChar_toNat_sub digits.head]
  | append_singleton run last induction =>
      have digit : last.isDigit = true := by
        apply digits
        simp
      have front : Digits (letter :: run) := by
        intro other member
        apply digits
        rw [← List.cons_append]
        exact List.mem_append_left _ member
      obtain ⟨low, high⟩ := toNat_bounds_of_isDigit digit
      have zero : '0'.toNat = 48 := rfl
      have small : last.toNat - '0'.toNat < 10 := by omega
      rw [← List.cons_append, Nat.ofDigitChars_append, Nat.ofDigitChars_cons,
        Nat.ofDigitChars_nil,
        ← Nat.toDigits_append_toDigits (by decide)
          (ofDigitChars_pos front.head leading) small,
        induction front, Nat.toDigits_of_lt_base small,
        digitChar_toNat_sub digit]

/-- Only the decimal form of zero begins with a zero. -/
theorem exists_toDigits_eq_cons {value : Nat} (positive : 0 < value) :
    ∃ letter run, Nat.toDigits 10 value = letter :: run ∧ letter ≠ '0' := by
  induction value using Nat.strongRecOn with
  | ind value induction =>
      rcases Nat.lt_or_ge value 10 with small | large
      · refine ⟨value.digitChar, [], Nat.toDigits_of_lt_base small, ?_⟩
        intro zero
        have code := congrArg Char.toNat zero
        rw [Nat.toNat_digitChar_of_lt_ten small] at code
        have code : 48 + value = 48 := code
        omega
      · obtain ⟨letter, run, form, leading⟩ :=
          induction (value / 10) (by omega) (by omega)
        refine ⟨letter, run ++ [(value % 10).digitChar], ?_, leading⟩
        rw [Nat.toDigits_of_base_le (by decide) large, form,
          List.cons_append]

/-- A power of ten puts zeros behind the digits. -/
theorem toDigits_mul_pow {value : Nat} (positive : 0 < value) (places : Nat) :
    Nat.toDigits 10 (value * Nat.pow 10 places) =
      Nat.toDigits 10 value ++ List.replicate places '0' := by
  induction places with
  | zero =>
      rw [List.replicate_zero, List.append_nil]
      exact congrArg _ (Nat.mul_one value)
  | succ places induction =>
      have shifted : value * Nat.pow 10 (places + 1) =
          10 * (value * Nat.pow 10 places) + 0 :=
        (Nat.mul_assoc _ _ _).symm.trans (Nat.mul_comm _ _)
      have before : 0 < value * Nat.pow 10 places :=
        Nat.mul_pos positive (Nat.pow_pos (by decide))
      rw [shifted, ← Nat.toDigits_append_toDigits (by decide) before
        (by decide), induction, Nat.toDigits_zero, List.append_assoc,
        ← List.replicate_succ']

theorem exists_trailing_zeros (run : List Char) :
    ∃ zeros, run.rdropWhile (· == '0') ++ List.replicate zeros '0' = run := by
  have only : run.rtakeWhile (· == '0') =
      List.replicate (run.rtakeWhile (· == '0')).length '0' := by
    apply List.eq_replicate_of_mem
    intro letter member
    exact eq_of_beq (List.mem_rtakeWhile_imp (p := (· == '0')) member)
  refine ⟨(run.rtakeWhile (· == '0')).length, ?_⟩
  rw [← only]
  exact List.rdropWhile_append_rtakeWhile

end Switchboard.Text
