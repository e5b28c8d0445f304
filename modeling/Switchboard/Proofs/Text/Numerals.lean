import Switchboard.Proofs.Text.Digits
import Switchboard.Text.Numeral

/-!
# Signed numerals and the blanks around them
-/

namespace Switchboard.Text

/-- A signed numeral: at least one digit, with or without a sign. -/
inductive Numeral : List Char → Int → Prop where
  | plain {digits : List Char} :
      Digits digits → digits ≠ [] →
      Numeral digits (Nat.ofDigitChars 10 digits 0)
  | plus {digits : List Char} :
      Digits digits → digits ≠ [] →
      Numeral ('+' :: digits) (Nat.ofDigitChars 10 digits 0)
  | minus {digits : List Char} :
      Digits digits → digits ≠ [] →
      Numeral ('-' :: digits) (-Nat.ofDigitChars 10 digits 0)

theorem digitsValue?_eq_some_iff {text : List Char} {value : Nat} :
    digitsValue? text = some value ↔
      Digits text ∧ text ≠ [] ∧ Nat.ofDigitChars 10 text 0 = value := by
  have same : text.foldl
      (fun value digit => value * 10 + (digit.toNat - '0'.toNat)) 0 =
        Nat.ofDigitChars 10 text 0 := by
    rw [Nat.ofDigitChars_eq_foldl]
    simp only [Nat.mul_comm]
  unfold digitsValue?
  rw [same]
  split
  · next unfit =>
      simp only [Bool.or_eq_true, List.isEmpty_iff, Bool.not_eq_true',
        List.all_eq_false] at unfit
      constructor
      · intro impossible
        cases impossible
      · rintro ⟨digits, some, -⟩
        rcases unfit with empty | ⟨letter, member, other⟩
        · exact absurd empty some
        · exact absurd (digits letter member) other
  · next fit =>
      simp only [Bool.or_eq_true, List.isEmpty_iff, Bool.not_eq_true',
        not_or, Bool.not_eq_false, List.all_eq_true] at fit
      constructor
      · intro found
        exact ⟨fit.2, fit.1, Option.some.inj found⟩
      · rintro ⟨-, -, rfl⟩
        rfl

theorem map_digitsValue?_eq_some_iff {text : List Char} {form : Nat → Int}
    {value : Int} :
    (digitsValue? text).map form = some value ↔
      Digits text ∧ text ≠ [] ∧
        form (Nat.ofDigitChars 10 text 0) = value := by
  rw [Option.map_eq_some_iff]
  constructor
  · rintro ⟨size, found, same⟩
    obtain ⟨row, some, rfl⟩ := digitsValue?_eq_some_iff.mp found
    exact ⟨row, some, same⟩
  · rintro ⟨row, some, same⟩
    exact ⟨_, digitsValue?_eq_some_iff.mpr ⟨row, some, rfl⟩, same⟩

private theorem integer?_of_digits {text : List Char} (row : Digits text) :
    integer? text = (digitsValue? text).map fun value : Nat => (value : Int) := by
  fun_cases integer? text with
  | case1 digits => cases row.head
  | case2 digits => cases row.head
  | case3 => rfl

theorem integer?_eq_some_iff {text : List Char} {value : Int} :
    integer? text = some value ↔ Numeral text value := by
  constructor
  · intro reads
    revert reads
    fun_cases integer? text with
    | case1 digits =>
        intro reads
        obtain ⟨row, some, rfl⟩ := map_digitsValue?_eq_some_iff.mp reads
        exact .minus row some
    | case2 digits =>
        intro reads
        obtain ⟨row, some, rfl⟩ := map_digitsValue?_eq_some_iff.mp reads
        exact .plus row some
    | case3 digits =>
        intro reads
        obtain ⟨row, some, rfl⟩ := map_digitsValue?_eq_some_iff.mp reads
        exact .plain row some
  · intro numeral
    cases numeral with
    | plain row some =>
        rw [integer?_of_digits row]
        exact map_digitsValue?_eq_some_iff.mpr ⟨row, some, rfl⟩
    | plus row some => exact map_digitsValue?_eq_some_iff.mpr ⟨row, some, rfl⟩
    | minus row some => exact map_digitsValue?_eq_some_iff.mpr ⟨row, some, rfl⟩

theorem signed64?_eq_some_iff {text : List Char} {value : Int64} :
    signed64? text = some value ↔ Numeral text value.toInt := by
  rw [← integer?_eq_some_iff, signed64?, Option.bind_eq_some_iff]
  constructor
  · rintro ⟨size, reads, narrowed⟩
    split at narrowed
    · next range =>
        cases narrowed
        rw [reads, Int64.toInt_ofInt_of_le range.1 (by
          have limit : Int64.maxValue.toInt = 2 ^ 63 - 1 := rfl
          omega)]
    · cases narrowed
  · intro reads
    refine ⟨value.toInt, reads, ?_⟩
    rw [if_pos ⟨value.minValue_le_toInt, value.toInt_le⟩, Int64.ofInt_toInt]

theorem numeral_renderInteger (value : Int) :
    Numeral (Json.renderInteger value) value := by
  have digits := digits_toDigits value.natAbs
  have total : Nat.ofDigitChars 10 (Nat.toDigits 10 value.natAbs) 0 =
      value.natAbs := Nat.ofDigitChars_ten_toDigits
  unfold Json.renderInteger
  split
  · next negative =>
      have numeral := Numeral.minus digits Nat.toDigits_ne_nil
      have same : -(value.natAbs : Int) = value := by omega
      rwa [total, same] at numeral
  · next positive =>
      have numeral := Numeral.plain digits Nat.toDigits_ne_nil
      have same : (value.natAbs : Int) = value := by omega
      rwa [total, same] at numeral

/-! ## Blanks -/

/-- A row of blanks. -/
def Blanks (text : List Char) : Prop :=
  ∀ letter ∈ text, isBlank letter = true

theorem Blanks.nil : Blanks [] := by
  intro letter member
  cases member

private theorem isBlank_of_isDigit
    {letter : Char} (digit : letter.isDigit = true) :
    isBlank letter = false := by
  obtain ⟨low, high⟩ := toNat_bounds_of_isDigit digit
  apply Bool.eq_false_iff.mpr
  intro blank
  simp [isBlank, blankRanges] at blank
  omega

theorem Numeral.solid {text : List Char} {value : Int}
    (numeral : Numeral text value) :
    text ≠ [] ∧ ∀ letter ∈ text, isBlank letter = false := by
  cases numeral with
  | plain row some =>
      exact ⟨some, fun letter member => isBlank_of_isDigit (row letter member)⟩
  | plus row | minus row =>
      refine ⟨List.cons_ne_nil _ _, ?_⟩
      intro letter member
      rcases List.mem_cons.mp member with rfl | later
      · rfl
      · exact isBlank_of_isDigit (row letter later)

private theorem dropWhile_blanks
    {before text : List Char} (blanks : Blanks before)
    (solid : text ≠ [] ∧ ∀ letter ∈ text, isBlank letter = false)
    (rest : List Char) :
    (before ++ (text ++ rest)).dropWhile isBlank = text ++ rest := by
  rw [List.dropWhile_append_of_pos blanks]
  cases text with
  | nil => exact absurd rfl solid.1
  | cons letter text =>
      apply List.dropWhile_cons_of_neg
      simp [solid.2 letter List.mem_cons_self]

/-- Blanks around a text without blanks are trimmed. -/
theorem trim_of_solid {before text behind : List Char}
    (leading : Blanks before) (trailing : Blanks behind)
    (solid : text ≠ [] ∧ ∀ letter ∈ text, isBlank letter = false) :
    trim (before ++ (text ++ behind)) = text := by
  have trailing : Blanks behind.reverse := by
    intro letter member
    exact trailing letter (List.mem_reverse.mp member)
  have mirrored : text.reverse ≠ [] ∧
      ∀ letter ∈ text.reverse, isBlank letter = false := by
    refine ⟨by simpa using solid.1, ?_⟩
    intro letter member
    exact solid.2 letter (List.mem_reverse.mp member)
  have back := dropWhile_blanks trailing mirrored []
  rw [List.append_nil] at back
  rw [trim, dropWhile_blanks leading solid, List.reverse_append, back,
    List.reverse_reverse]

theorem exists_trim (text : List Char) :
    ∃ before behind, Blanks before ∧ Blanks behind ∧
      text = before ++ (trim text ++ behind) := by
  let rest := text.dropWhile isBlank
  refine ⟨text.takeWhile isBlank, (rest.reverse.takeWhile isBlank).reverse,
    ?_, ?_, ?_⟩
  · intro letter member
    exact List.all_eq_true.mp List.all_takeWhile letter member
  · intro letter member
    exact List.all_eq_true.mp List.all_takeWhile letter
      (List.mem_reverse.mp member)
  · have back : trim text ++ (rest.reverse.takeWhile isBlank).reverse =
        rest := by
      rw [trim, ← List.reverse_append, List.takeWhile_append_dropWhile,
        List.reverse_reverse]
    rw [back, List.takeWhile_append_dropWhile]

end Switchboard.Text
