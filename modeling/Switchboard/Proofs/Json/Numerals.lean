import Switchboard.Proofs.Json.Grammar
import Switchboard.Proofs.Text.Digits

/-!
# Numbers are read by their grammar

What a reader of numbers takes off the front of a text, it takes off in front
of anything that may stand behind a value.  So a number is read from its token
alone, and an integer from its decimal form.
-/

namespace Switchboard.Json

open Switchboard.Text (Digits)

/-- A reader of a number at the front of a text. -/
abbrev NumberReader := List Char → Except Fault (Number × List Char)

/-- A reader takes a token for a number, whatever stands behind it. -/
def Takes (read : NumberReader) (token : List Char) (number : Number) :
    Prop :=
  ∀ rest, Stops rest → read (token ++ rest) = .ok (number, rest)

/-- The text begins with a token that the reader takes. -/
def Splits (read : NumberReader) (text : List Char) (number : Number)
    (left : List Char) : Prop :=
  ∃ token, text = token ++ left ∧ Takes read token number

/-- A reader that gives binary64 values only, and takes tokens for them. -/
def TakesFloats (read : NumberReader) : Prop :=
  ∀ (text left : List Char) (number : Number),
    read text = .ok (number, left) →
      (∃ value, number = .float value) ∧ Splits read text number left

/-! ## What a text begins with -/

/-- Whether a text begins with one of these letters. -/
def begins (letters : Char → Bool) : List Char → Bool
  | [] => false
  | letter :: _ => letters letter

/-- A letter that a number may go on with. -/
def goesOn (letter : Char) : Bool :=
  letter.isDigit || letter = '.' || letter = 'e' || letter = 'E' ||
    letter = '+' || letter = '-'

theorem begins_of_stops {rest : List Char} (stops : Stops rest)
    {letters : Char → Bool}
    (few : ∀ letter, letters letter = true → goesOn letter = true) :
    begins letters rest = false := by
  cases rest with
  | nil => rfl
  | cons letter rest =>
      have apart : goesOn letter = false := by
        rcases stops with space | rfl | rfl | rfl
        · simp only [isSpace, Bool.or_eq_true, decide_eq_true_eq] at space
          rcases space with ((rfl | rfl) | rfl) | rfl <;> rfl
        all_goals rfl
      apply Bool.eq_false_iff.mpr
      intro first
      exact absurd (few letter first) (by simp [apart])

theorem startsWithDigit_eq_begins (text : List Char) :
    startsWithDigit text = begins Char.isDigit text := by
  cases text <;> rfl

theorem begins_digit_of_stops {rest : List Char} (stops : Stops rest) :
    begins Char.isDigit rest = false := by
  apply begins_of_stops stops
  intro letter digit
  simp [goesOn, digit]

theorem Splits.behind {read inner : NumberReader}
    {front tail left : List Char} {number : Number} {letters : Char → Bool}
    (few : ∀ letter, letters letter = true → goesOn letter = true)
    (same : ∀ tail, begins letters tail = false →
      read (front ++ tail) = inner tail)
    (ends : begins letters tail = false)
    (splits : Splits inner tail number left) :
    Splits read (front ++ tail) number left := by
  obtain ⟨token, rfl, takes⟩ := splits
  refine ⟨front ++ token, by rw [List.append_assoc], ?_⟩
  intro rest stops
  have still : begins letters (token ++ rest) = false := by
    cases token with
    | nil => exact begins_of_stops stops few
    | cons letter token => exact ends
  rw [List.append_assoc, same _ still]
  exact takes rest stops

/-! ## Rows of digits -/

/-- Every text begins with a row of digits that does not go on. -/
theorem exists_run (text : List Char) :
    ∃ run tail, text = run ++ tail ∧ Digits run ∧
      begins Char.isDigit tail = false := by
  refine ⟨text.takeWhile Char.isDigit, text.dropWhile Char.isDigit,
    List.takeWhile_append_dropWhile.symm, ?_, ?_⟩
  · intro letter member
    exact List.all_eq_true.mp List.all_takeWhile letter member
  · cases form : text.dropWhile Char.isDigit with
    | nil => rfl
    | cons letter rest =>
        have some : text.dropWhile Char.isDigit ≠ [] := by
          rw [form]
          exact List.cons_ne_nil _ _
        simpa [form, begins] using List.head_dropWhile_not Char.isDigit some

private theorem dropWhile_of_ends {tail : List Char}
    (ends : begins Char.isDigit tail = false) :
    tail.dropWhile Char.isDigit = tail := by
  cases tail with
  | nil => rfl
  | cons letter tail =>
      have other : letter.isDigit = false := ends
      simp [other]

theorem dropWhile_run {run tail : List Char} (digits : Digits run)
    (ends : begins Char.isDigit tail = false) :
    (run ++ tail).dropWhile Char.isDigit = tail := by
  rw [List.dropWhile_append_of_pos digits, dropWhile_of_ends ends]

theorem takeWhile_run {run tail : List Char} (digits : Digits run)
    (ends : begins Char.isDigit tail = false) :
    (run ++ tail).takeWhile Char.isDigit = run := by
  rw [List.takeWhile_append_of_pos digits]
  cases tail with
  | nil => exact List.append_nil _
  | cons letter tail =>
      have other : letter.isDigit = false := ends
      simp [other]

theorem takeDigits_of_ends {tail : List Char}
    (ends : begins Char.isDigit tail = false) (bound value taken : Nat) :
    takeDigits bound value taken tail = (value, taken, tail) := by
  cases tail with
  | nil => rfl
  | cons letter rest =>
      have other : letter.isDigit = false := ends
      simp [takeDigits, other]

private theorem le_ofDigitChars (run : List Char) (value : Nat) :
    value ≤ Nat.ofDigitChars 10 run value := by
  rw [Nat.ofDigitChars_eq_ofDigitChars_zero]
  apply Nat.le_trans _ (Nat.le_add_right _ _)
  exact Nat.le_mul_of_pos_left _ (Nat.pow_pos (by decide))

/-- What is taken of a row of digits: all of it, or what the bound has room
for. -/
theorem takeDigits_run {run : List Char} (digits : Digits run)
    (bound value taken : Nat) :
    (∀ tail, begins Char.isDigit tail = false →
      takeDigits bound value taken (run ++ tail) =
        (Nat.ofDigitChars 10 run value, taken + run.length, tail)) ∧
        (value < bound → Nat.ofDigitChars 10 run value < bound) ∨
      bound ≤ Nat.ofDigitChars 10 run value ∧
        ∃ reached count letter more, Digits (letter :: more) ∧
          ∀ tail, begins Char.isDigit tail = false →
            takeDigits bound value taken (run ++ tail) =
              (reached, count, letter :: (more ++ tail)) := by
  induction run generalizing value taken with
  | nil =>
      refine .inl ⟨?_, ?_⟩
      · intro tail ends
        exact takeDigits_of_ends ends bound value taken
      · rw [Nat.ofDigitChars_nil]
        exact id
  | cons letter run induction =>
      have step : Nat.ofDigitChars 10 (letter :: run) value =
          Nat.ofDigitChars 10 run (value * 10 + digitValue letter) := by
        rw [Nat.ofDigitChars_cons, Nat.mul_comm]
        rfl
      rw [step]
      by_cases fits : value * 10 + digitValue letter < bound
      · have go : ∀ tail, takeDigits bound value taken (letter :: run ++ tail) =
            takeDigits bound (value * 10 + digitValue letter) (taken + 1)
              (run ++ tail) := by
          intro tail
          simp [takeDigits, digits.head, fits]
        rcases induction digits.tail (value * 10 + digitValue letter)
            (taken + 1) with
          ⟨all, within⟩ | ⟨exceeds, reached, count, next, more, rest, some⟩
        · refine .inl ⟨?_, fun _ => within fits⟩
          intro tail ends
          rw [go, all tail ends, List.length_cons, Nat.add_right_comm,
            Nat.add_assoc]
        · refine .inr ⟨exceeds, reached, count, next, more, rest, ?_⟩
          intro tail ends
          rw [go, some tail ends]
      · refine .inr ⟨?_, value, taken, letter, run, digits, ?_⟩
        · exact Nat.le_trans (Nat.le_of_not_lt fits) (le_ofDigitChars _ _)
        · intro tail _
          simp [takeDigits, digits.head, fits]

/-! ## Binary64 values -/

theorem takesFloats_ok (value : Float) :
    TakesFloats fun text => .ok (.float value, text) := by
  intro text left number reads
  cases reads
  exact ⟨⟨value, rfl⟩, [], rfl, fun _ _ => rfl⟩

theorem takesFloats_error (fault : List Char → Fault) :
    TakesFloats fun text => .error (fault text) := by
  intro text left number reads
  cases reads

theorem takesFloats_floatNumber (negative : Bool) (significand : Nat)
    (exponent : Int) :
    TakesFloats (floatNumber negative significand exponent) := by
  cases scaled : scaleFloat significand exponent with
  | none =>
      have same : floatNumber negative significand exponent =
          fun text => .error (.reading .numberOutOfRange text) := by
        funext text
        simp [floatNumber, scaled]
      rw [same]
      exact takesFloats_error _
  | some value =>
      have same : floatNumber negative significand exponent =
          fun text =>
            .ok (.float (if negative then -value else value), text) := by
        funext text
        simp [floatNumber, scaled]
      rw [same]
      exact takesFloats_ok _

theorem TakesFloats.behind {read inner : NumberReader}
    (floats : TakesFloats inner) {front tail left : List Char}
    {number : Number} (letters : Char → Bool)
    (few : ∀ letter, letters letter = true → goesOn letter = true)
    (same : ∀ tail, begins letters tail = false →
      read (front ++ tail) = inner tail)
    (ends : begins letters tail = false)
    (reads : read (front ++ tail) = .ok (number, left)) :
    (∃ value, number = .float value) ∧
      Splits read (front ++ tail) number left := by
  rw [same tail ends] at reads
  obtain ⟨float, splits⟩ := floats tail left number reads
  exact ⟨float, splits.behind few same ends⟩

theorem TakesFloats.cons {read inner : NumberReader}
    (floats : TakesFloats inner) {letter : Char} {tail left : List Char}
    {number : Number} (same : ∀ tail, read (letter :: tail) = inner tail)
    (reads : read (letter :: tail) = .ok (number, left)) :
    (∃ value, number = .float value) ∧
      Splits read (letter :: tail) number left := by
  have behind : read ([letter] ++ tail) = .ok (number, left) := reads
  refine floats.behind (fun _ => false) (by simp) ?_ ?_ behind
  · intro tail _
    exact same tail
  · cases tail <;> rfl

/-- A reader that goes on by the first letter if that is one of these. -/
theorem takesFloats_of_letters {read plain : NumberReader}
    (letters : Char → Bool)
    (few : ∀ letter, letters letter = true → goesOn letter = true)
    (floats : TakesFloats plain)
    (same : ∀ tail, begins letters tail = false → read tail = plain tail)
    (branches : ∀ letter, letters letter = true →
      ∃ inner, TakesFloats inner ∧
        ∀ tail, read (letter :: tail) = inner tail) :
    TakesFloats read := by
  intro text left number reads
  cases first : begins letters text with
  | false =>
      have behind : read ([] ++ text) = .ok (number, left) := reads
      exact floats.behind letters few same first behind
  | true =>
      cases text with
      | nil => cases first
      | cons letter tail =>
          obtain ⟨inner, takes, equal⟩ := branches letter first
          exact takes.cons equal reads

/-- A reader that needs a row of digits, which decides how it goes on. -/
theorem takesFloats_of_run {read : NumberReader}
    (needed : ∀ tail, begins Char.isDigit tail = false →
      ∀ outcome, read tail ≠ .ok outcome)
    (decides : ∀ {letter run}, Digits (letter :: run) →
      ∃ inner, TakesFloats inner ∧
        ∀ tail, begins Char.isDigit tail = false →
          read (letter :: run ++ tail) = inner tail) :
    TakesFloats read := by
  intro text left number reads
  obtain ⟨run, tail, rfl, digits, ends⟩ := exists_run text
  cases run with
  | nil => exact absurd reads (needed tail ends _)
  | cons letter run =>
      obtain ⟨inner, floats, same⟩ := decides digits
      exact floats.behind Char.isDigit (by simp +contextual [goesOn]) same
        ends reads

theorem readPower_run (negative : Bool) (significand : Nat) (start : Int)
    (negativeExponent : Bool) {letter : Char} {run : List Char}
    (digits : Digits (letter :: run)) :
    ∃ inner, TakesFloats inner ∧
      ∀ tail, begins Char.isDigit tail = false →
        readPower negative significand start negativeExponent
          (letter :: run ++ tail) = inner tail := by
  have digit := digits.head
  rcases takeDigits_run digits.tail exponentBound (digitValue letter) 1 with
    ⟨all, -⟩ | ⟨-, reached, count, next, more, rest, some⟩
  · refine ⟨floatNumber negative significand ?exponent,
      takesFloats_floatNumber _ _ _, ?inFront⟩
    case inFront =>
      intro tail ends
      simp only [List.cons_append, readPower, digit, all tail ends,
        startsWithDigit_eq_begins, ends, if_true, Bool.false_eq_true, if_false]
      rfl
  · by_cases huge : significand ≠ 0 ∧ !negativeExponent
    · refine ⟨_, takesFloats_error fun tail =>
        .reading .numberOutOfRange (more ++ tail), ?_⟩
      intro tail ends
      simp [readPower, digit, some tail ends, startsWithDigit, rest.head, huge]
    · refine ⟨_, takesFloats_ok (if negative then -0.0 else 0.0), ?_⟩
      intro tail ends
      have skipped := dropWhile_run rest ends
      rw [List.cons_append] at skipped
      simp only [List.cons_append, readPower, digit, some tail ends,
        startsWithDigit, rest.head, huge, skipped, if_true, if_false]

private theorem takesFloats_readPower (negative : Bool) (significand : Nat)
    (start : Int) (negativeExponent : Bool) :
    TakesFloats
      (readPower negative significand start negativeExponent) := by
  apply takesFloats_of_run
  · intro tail ends outcome reads
    cases tail with
    | nil => cases reads
    | cons letter tail =>
        have other : letter.isDigit = false := ends
        simp [readPower, other] at reads
  · exact readPower_run negative significand start negativeExponent

/-- A letter that is the sign of an exponent. -/
def isSign (letter : Char) : Bool :=
  letter = '+' || letter = '-'

theorem takesFloats_readExponent (negative : Bool) (significand : Nat)
    (start : Int) :
    TakesFloats (readExponent negative significand start) := by
  have powers := takesFloats_readPower negative significand start
  apply takesFloats_of_letters isSign _ (powers false)
  · intro tail ends
    cases tail with
    | nil => rfl
    | cons letter tail =>
        simp only [begins, isSign, Bool.or_eq_false_iff,
          decide_eq_false_iff_not] at ends
        simp [readExponent, ends]
  · intro letter signed
    simp only [isSign, Bool.or_eq_true, decide_eq_true_eq] at signed
    rcases signed with rfl | rfl
    · exact ⟨_, powers false, fun _ => rfl⟩
    · exact ⟨_, powers true, fun _ => rfl⟩
  · simp +contextual [isSign, goesOn]

/-- A letter that an exponent begins with. -/
def isPower (letter : Char) : Bool :=
  letter = 'e' || letter = 'E'

theorem takesFloats_readFloatEnd (negative : Bool) (significand : Nat)
    (exponent : Int) :
    TakesFloats (readFloatEnd negative significand exponent) := by
  apply takesFloats_of_letters isPower _
    (takesFloats_floatNumber negative significand exponent)
  · intro tail ends
    cases tail with
    | nil => rfl
    | cons letter tail =>
        simp only [begins, isPower, Bool.or_eq_false_iff,
          decide_eq_false_iff_not] at ends
        simp [readFloatEnd, ends]
  · intro letter powered
    simp only [isPower, Bool.or_eq_true, decide_eq_true_eq] at powered
    refine ⟨_, takesFloats_readExponent negative significand exponent, ?_⟩
    rcases powered with rfl | rfl <;> exact fun _ => rfl
  · simp +contextual [isPower, goesOn]

theorem takesFloats_readFraction (negative : Bool) (significand : Nat)
    (exponent : Int) :
    TakesFloats (readFraction negative significand exponent) := by
  apply takesFloats_of_run
  · intro tail ends outcome reads
    simp only [readFraction, takeDigits_of_ends ends,
      startsWithDigit_eq_begins, ends, Bool.false_eq_true, if_false,
      if_true] at reads
    cases tail <;> cases reads
  · intro letter run digits
    rcases takeDigits_run digits significandBound significand 0 with
      ⟨all, -⟩ | ⟨-, reached, count, next, more, rest, some⟩
    · refine ⟨readFloatEnd negative ?value ?exponent,
        takesFloats_readFloatEnd _ _ _, ?inFront⟩
      case inFront =>
        intro tail ends
        simp only [readFraction, all tail ends, startsWithDigit_eq_begins,
          ends, Bool.false_eq_true, if_false, Nat.zero_add, List.length_cons,
          Nat.add_one_ne_zero]
        rfl
    · refine ⟨readFloatEnd negative reached (exponent - count),
        takesFloats_readFloatEnd _ _ _, ?_⟩
      intro tail ends
      have skipped := dropWhile_run rest ends
      rw [List.cons_append] at skipped
      simp only [readFraction, some tail ends, startsWithDigit, rest.head,
        skipped, if_true]

/-- Reads what follows more whole digits than a significand has room for. -/
def readOverlong (negative : Bool) (significand skipped : Nat) : NumberReader
  | '.' :: fraction => readFraction negative significand skipped fraction
  | behind => readFloatEnd negative significand skipped behind

theorem takesFloats_readOverlong (negative : Bool)
    (significand skipped : Nat) :
    TakesFloats (readOverlong negative significand skipped) := by
  apply takesFloats_of_letters (fun letter => letter = '.') _
    (takesFloats_readFloatEnd negative significand skipped)
  · intro tail ends
    cases tail with
    | nil => rfl
    | cons letter tail =>
        have other : letter ≠ '.' := of_decide_eq_false ends
        simp [readOverlong, other]
  · intro letter point
    obtain rfl : letter = '.' := of_decide_eq_true point
    exact ⟨_, takesFloats_readFraction negative significand skipped,
      fun _ => rfl⟩
  · simp +contextual [goesOn]

/-! ## Integers -/

/-- A letter behind which a number is no integer. -/
def isBroken (letter : Char) : Bool :=
  letter = '.' || letter = 'e' || letter = 'E'

theorem goesOn_of_isBroken (letter : Char) (broken : isBroken letter = true) :
    goesOn letter = true := by
  simp only [isBroken, Bool.or_eq_true, decide_eq_true_eq] at broken
  rcases broken with (rfl | rfl) | rfl <;> rfl

theorem readNumberEnd_of_ends (negative : Bool) (significand : Nat)
    {tail : List Char} (ends : begins isBroken tail = false) :
    readNumberEnd negative significand tail =
      .ok (wholeNumber negative significand, tail) := by
  cases tail with
  | nil => rfl
  | cons letter tail =>
      simp only [begins, isBroken, Bool.or_eq_false_iff,
        decide_eq_false_iff_not] at ends
      simp [readNumberEnd, ends]

private theorem readNumberEnd_broken (negative : Bool) (significand : Nat)
    {tail left : List Char} {number : Number}
    (broken : begins isBroken tail = true)
    (reads : readNumberEnd negative significand tail = .ok (number, left)) :
    (∃ value, number = .float value) ∧
      Splits (readNumberEnd negative significand) tail number left := by
  cases tail with
  | nil => cases broken
  | cons letter tail =>
      simp only [begins, isBroken, Bool.or_eq_true, decide_eq_true_eq]
        at broken
      rcases broken with (rfl | rfl) | rfl
      · exact (takesFloats_readFraction negative significand 0).cons
          (fun _ => rfl) reads
      all_goals
        exact (takesFloats_readExponent negative significand 0).cons
          (fun _ => rfl) reads

/-- A row of digits is the decimal form of an integer in range, or it makes a
binary64 value of the number, or it is none. -/
theorem readUnsigned_run (negative : Bool) {letter : Char} {run : List Char}
    (digits : Digits (letter :: run)) :
    (∃ value, value < significandBound ∧
      letter :: run = Nat.toDigits 10 value ∧
        ∀ tail, begins Char.isDigit tail = false →
          readUnsigned negative (letter :: run ++ tail) =
            readNumberEnd negative value tail) ∨
      ∃ inner, TakesFloats inner ∧
        ∀ tail, begins Char.isDigit tail = false →
          readUnsigned negative (letter :: run ++ tail) = inner tail := by
  by_cases zero : letter = '0'
  · subst zero
    cases run with
    | nil =>
        refine .inl ⟨0, by decide, rfl, ?_⟩
        intro tail ends
        simp [readUnsigned, startsWithDigit_eq_begins, ends]
    | cons next run =>
        refine .inr ⟨_, takesFloats_error fun tail =>
          .facing .invalidNumber (next :: (run ++ tail)), ?_⟩
        intro tail ends
        simp [readUnsigned, startsWithDigit, digits.tail.head]
  · have value : Nat.ofDigitChars 10 run (digitValue letter) =
        Nat.ofDigitChars 10 (letter :: run) 0 := by
      rw [Nat.ofDigitChars_cons, Nat.mul_zero, Nat.zero_add]
      rfl
    have small : digitValue letter < significandBound := by
      have bounds := Text.toNat_bounds_of_isDigit digits.head
      have bound : significandBound = 18446744073709551616 := rfl
      simp only [digitValue, bound]
      omega
    rcases takeDigits_run digits.tail significandBound (digitValue letter) 1
      with ⟨all, within⟩ | ⟨-, reached, count, next, more, rest, some⟩
    · refine .inl ⟨_, within small, ?_, ?_⟩
      · rw [value, Text.toDigits_ofDigitChars zero digits]
      · intro tail ends
        simp [readUnsigned, digits.head, all tail ends,
          startsWithDigit_eq_begins, ends]
    · refine .inr ⟨readOverlong negative reached (next :: more).length,
        takesFloats_readOverlong _ _ _, ?_⟩
      intro tail ends
      have skipped := dropWhile_run rest ends
      have taken := takeWhile_run rest ends
      rw [List.cons_append] at skipped taken
      simp only [List.cons_append, readUnsigned, digits.head,
        some tail ends, startsWithDigit, rest.head, skipped, taken,
        if_true]
      rfl

/-- Behind its sign, a number is a token of a binary64 value or the decimal
form of an integer. -/
theorem readUnsigned_cases {negative : Bool} {text left : List Char}
    {number : Number} (reads : readUnsigned negative text = .ok (number, left)) :
    ((∃ value, number = .float value) ∧
        Splits (readUnsigned negative) text number left) ∨
      ∃ value, value < significandBound ∧
        text = Nat.toDigits 10 value ++ left ∧
          number = wholeNumber negative value := by
  obtain ⟨run, tail, rfl, digits, ends⟩ := exists_run text
  have few : ∀ letter, Char.isDigit letter = true → goesOn letter = true := by
    simp +contextual [goesOn]
  cases run with
  | nil =>
      cases tail with
      | nil => cases reads
      | cons letter tail =>
          have other : letter.isDigit = false := ends
          have zero : letter ≠ '0' := by
            rintro rfl
            cases other
          simp [readUnsigned, other] at reads
  | cons letter run =>
      rcases readUnsigned_run negative digits with
        ⟨value, small, form, same⟩ | ⟨inner, floats, same⟩
      · have goes := reads
        rw [same tail ends] at goes
        cases broken : begins isBroken tail with
        | true =>
            obtain ⟨float, splits⟩ := readNumberEnd_broken negative value broken
              goes
            exact .inl ⟨float, splits.behind few same ends⟩
        | false =>
            rw [readNumberEnd_of_ends negative value broken] at goes
            cases goes
            refine .inr ⟨value, small, ?_, rfl⟩
            rw [form]
      · exact .inl (floats.behind Char.isDigit few same ends reads)

theorem readUnsigned_toDigits (negative : Bool) {value : Nat}
    (small : value < significandBound) {rest : List Char}
    (stops : Stops rest) :
    readUnsigned negative (Nat.toDigits 10 value ++ rest) =
      .ok (wholeNumber negative value, rest) := by
  have digits := Text.digits_toDigits value
  have ends := begins_digit_of_stops stops
  have whole := begins_of_stops stops goesOn_of_isBroken
  rcases Nat.eq_zero_or_pos value with rfl | positive
  · rw [Nat.toDigits_zero]
    simp [readUnsigned, startsWithDigit_eq_begins, ends,
      readNumberEnd_of_ends negative 0 whole]
  · obtain ⟨letter, run, form, leading⟩ :=
      Text.exists_toDigits_eq_cons positive
    have total : Nat.ofDigitChars 10 run (digitValue letter) = value := by
      have whole : Nat.ofDigitChars 10 (letter :: run) 0 = value := by
        rw [← form, Nat.ofDigitChars_ten_toDigits]
      rw [← whole, Nat.ofDigitChars_cons, Nat.mul_zero, Nat.zero_add]
      rfl
    rw [form] at digits ⊢
    rcases takeDigits_run digits.tail significandBound (digitValue letter) 1
      with ⟨all, -⟩ | ⟨exceeds, -⟩
    · simp [readUnsigned, digits.head, all rest ends,
        startsWithDigit_eq_begins, ends, total,
        readNumberEnd_of_ends negative value whole]
    · omega

/-! ## Numbers -/

/-- The sign of a number. -/
def signOf (negative : Bool) : List Char :=
  if negative then ['-'] else []

theorem renderInteger_of_neg {value : Int} (negative : value < 0) :
    renderInteger value =
      signOf true ++ Nat.toDigits 10 value.natAbs := by
  simp [renderInteger, signOf, negative]

theorem renderInteger_of_nonneg {value : Int} (positive : 0 ≤ value) :
    renderInteger value =
      signOf false ++ Nat.toDigits 10 value.natAbs := by
  have other : ¬value < 0 := by omega
  simp [renderInteger, signOf, other]

theorem wholeNumber_integer {negative : Bool} {significand : Nat}
    {value : Int} (small : significand < significandBound)
    (whole : wholeNumber negative significand = .integer value) :
    Storable value ∧
      signOf negative ++ Nat.toDigits 10 significand =
        renderInteger value := by
  have bound : significandBound = 18446744073709551616 := rfl
  cases negative with
  | false =>
      cases whole
      refine ⟨storable_iff.mpr ⟨by omega, by omega⟩, ?_⟩
      rw [renderInteger_of_nonneg (by omega), Int.natAbs_natCast]
  | true =>
      by_cases fits : 0 < significand ∧ significand ≤ Nat.pow 2 63
      · have limit : Nat.pow 2 63 = 9223372036854775808 := rfl
        simp only [wholeNumber, Bool.not_true, Bool.false_eq_true, if_false,
          if_pos fits, Number.integer.injEq] at whole
        subst whole
        refine ⟨storable_iff.mpr ⟨by omega, by omega⟩, ?_⟩
        rw [renderInteger_of_neg (by omega), Int.natAbs_neg,
          Int.natAbs_natCast]
      · simp [wholeNumber, fits] at whole

theorem wholeNumber_natAbs {value : Int} (storable : Storable value) :
    value.natAbs < significandBound ∧
      wholeNumber (decide (value < 0)) value.natAbs = .integer value ∧
        renderInteger value =
          signOf (decide (value < 0)) ++ Nat.toDigits 10 value.natAbs := by
  obtain ⟨low, high⟩ := storable_iff.mp storable
  have bound : significandBound = 18446744073709551616 := rfl
  by_cases negative : value < 0
  · have limit : Nat.pow 2 63 = 9223372036854775808 := rfl
    have fits : 0 < value.natAbs ∧ value.natAbs ≤ Nat.pow 2 63 := by omega
    have back : -(value.natAbs : Int) = value := by omega
    refine ⟨by omega, ?_, ?_⟩
    · simp only [negative, decide_true, wholeNumber, Bool.not_true,
        Bool.false_eq_true, if_false, if_pos fits, back]
    · simp only [negative, decide_true]
      exact renderInteger_of_neg negative
  · have back : (value.natAbs : Int) = value := by omega
    refine ⟨by omega, ?_, ?_⟩
    · simp only [negative, decide_false, wholeNumber, Bool.not_false, if_true,
        back]
    · simp only [negative, decide_false]
      exact renderInteger_of_nonneg (by omega)

/-- A letter that only the sign of a number is. -/
def isMinus (letter : Char) : Bool :=
  letter = '-'

theorem goesOn_of_isMinus (letter : Char) (minus : isMinus letter = true) :
    goesOn letter = true := by
  obtain rfl : letter = '-' := of_decide_eq_true minus
  rfl

theorem readNumber_signed (negative : Bool) {tail : List Char}
    (ends : begins isMinus tail = false) :
    readNumber (signOf negative ++ tail) = readUnsigned negative tail := by
  cases negative with
  | true => rfl
  | false =>
      cases tail with
      | nil => rfl
      | cons letter tail =>
          have other : letter ≠ '-' := of_decide_eq_false ends
          simp [signOf, readNumber, other]

theorem readNumber_cases {text left : List Char} {number : Number}
    (reads : readNumber text = .ok (number, left)) :
    ∃ negative tail, text = signOf negative ++ tail ∧
      begins isMinus tail = false ∧
        readUnsigned negative tail = .ok (number, left) := by
  have single : ∀ tail negative,
      readUnsigned negative tail = .ok (number, left) →
        begins isMinus tail = false := by
    intro tail negative reads
    cases minus : begins isMinus tail with
    | false => rfl
    | true =>
        cases tail with
        | nil => cases minus
        | cons letter tail =>
            obtain rfl : letter = '-' := of_decide_eq_true minus
            cases reads
  cases minus : begins isMinus text with
  | false =>
      refine ⟨false, text, rfl, minus, ?_⟩
      rw [← readNumber_signed false minus]
      exact reads
  | true =>
      cases text with
      | nil => cases minus
      | cons letter tail =>
          obtain rfl : letter = '-' := of_decide_eq_true minus
          exact ⟨true, tail, rfl, single tail true reads, reads⟩

theorem begins_toDigits (value : Nat) (rest : List Char) :
    begins isMinus (Nat.toDigits 10 value ++ rest) = false := by
  cases form : Nat.toDigits 10 value with
  | nil => exact absurd form Nat.toDigits_ne_nil
  | cons letter run =>
      have digits := Text.digits_toDigits value
      rw [form] at digits
      apply Bool.eq_false_iff.mpr
      intro minus
      obtain rfl : letter = '-' := of_decide_eq_true minus
      cases digits.head

theorem takes_wholeNumber (negative : Bool) {value : Nat}
    (small : value < significandBound) :
    Takes readNumber (signOf negative ++ Nat.toDigits 10 value)
      (wholeNumber negative value) := by
  intro rest stops
  rw [List.append_assoc,
    readNumber_signed negative (begins_toDigits value rest)]
  exact readUnsigned_toDigits negative small stops

/-- What is read as a number is a numeral, and it is read wherever it
stands. -/
theorem readNumber_sound {text left : List Char} {number : Number}
    (reads : readNumber text = .ok (number, left)) :
    ∃ token, text = token ++ left ∧ Numeral token number ∧
      Takes readNumber token number := by
  obtain ⟨negative, tail, rfl, ends, unsigned⟩ := readNumber_cases reads
  rcases readUnsigned_cases unsigned with
    ⟨⟨value, rfl⟩, splits⟩ | ⟨value, small, rfl, rfl⟩
  · obtain ⟨token, same, takes⟩ := splits.behind goesOn_of_isMinus
      (fun tail ends => readNumber_signed negative ends) ends
    refine ⟨token, same, .float ?_, takes⟩
    simpa using takes [] trivial
  · have takes := takes_wholeNumber negative small
    refine ⟨_, (List.append_assoc _ _ _).symm, ?_, takes⟩
    cases whole : wholeNumber negative value with
    | integer integer =>
        obtain ⟨storable, form⟩ := wholeNumber_integer small whole
        rw [form]
        exact .integer storable
    | float float =>
        rw [whole] at takes
        apply Numeral.float
        simpa using takes [] trivial

/-- A numeral is read as the number it spells. -/
theorem readNumber_complete {token rest : List Char} {number : Number}
    (numeral : Numeral token number) (stops : Stops rest) :
    readNumber (token ++ rest) = .ok (number, rest) := by
  cases numeral with
  | integer storable =>
      obtain ⟨small, whole, form⟩ := wholeNumber_natAbs storable
      rw [form, ← whole]
      exact takes_wholeNumber _ small rest stops
  | float reads =>
      obtain ⟨same, equal, -, takes⟩ := readNumber_sound reads
      rw [List.append_nil] at equal
      subst equal
      exact takes rest stops

theorem Numeral.starts {token : List Char} {number : Number}
    (numeral : Numeral token number) :
    ∃ letter more, token = letter :: more ∧ startsNumber letter = true := by
  have reads := readNumber_complete numeral (show Stops [] from trivial)
  rw [List.append_nil] at reads
  obtain ⟨negative, tail, rfl, -, unsigned⟩ := readNumber_cases reads
  cases negative with
  | true => exact ⟨'-', tail, rfl, rfl⟩
  | false =>
      cases tail with
      | nil => cases unsigned
      | cons letter tail =>
          refine ⟨letter, tail, rfl, ?_⟩
          by_cases digit : letter.isDigit = true
          · simp [startsNumber, digit]
          · have zero : letter ≠ '0' := by
              rintro rfl
              exact digit rfl
            simp [readUnsigned, digit] at unsigned

end Switchboard.Json
