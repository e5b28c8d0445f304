import Switchboard.Proofs.Json.Rendering
import Switchboard.Proofs.Request.Naming

/-!
# How an id is spelled

On the wire an id is an integer literal, or a quoted text that holds a numeral
between blanks.  Which texts present which integer in one of these ways is told
by their letters alone.  The id that is read from a text is the integer that the
text presents, if 64 bits hold it with its sign, and there is none otherwise.
-/

namespace Switchboard

namespace Json

open Switchboard.Text (Digits)

/-- An integer as JSON writes it: digits without a needless zero in front, and
a minus sign in front of a negative one.  There is no minus zero, no fraction
and no exponent. -/
inductive Literal : List Char → Int → Prop where
  | zero : Literal ['0'] 0
  | positive {letter : Char} {run : List Char} :
      letter ≠ '0' → Digits (letter :: run) →
      Literal (letter :: run) (Nat.ofDigitChars 10 (letter :: run) 0)
  | negative {letter : Char} {run : List Char} :
      letter ≠ '0' → Digits (letter :: run) →
      Literal ('-' :: letter :: run)
        (-Nat.ofDigitChars 10 (letter :: run) 0)

/-- The literal of an integer is its decimal form. -/
theorem literal_iff {text : List Char} {value : Int} :
    Literal text value ↔ text = renderInteger value := by
  constructor
  · intro literal
    cases literal with
    | zero => rfl
    | positive leading digits =>
        rw [renderInteger_of_nonneg (Int.natCast_nonneg _), Int.natAbs_natCast,
          Text.toDigits_ofDigitChars leading digits]
        rfl
    | @negative letter run leading digits =>
        have positive : 0 < Nat.ofDigitChars 10 (letter :: run) 0 :=
          Text.ofDigitChars_pos digits.head leading
        rw [renderInteger_of_neg (by omega), Int.natAbs_neg,
          Int.natAbs_natCast, Text.toDigits_ofDigitChars leading digits]
        rfl
  · rintro rfl
    rcases Nat.eq_zero_or_pos value.natAbs with zero | positive
    · obtain rfl := Int.natAbs_eq_zero.mp zero
      exact .zero
    · obtain ⟨letter, run, form, leading⟩ :=
        Text.exists_toDigits_eq_cons positive
      have digits := Text.digits_toDigits value.natAbs
      have total : Nat.ofDigitChars 10 (letter :: run) 0 = value.natAbs := by
        rw [← form, Nat.ofDigitChars_ten_toDigits]
      rw [form] at digits
      rcases Decidable.em (value < 0) with below | above
      · have literal := Literal.negative leading digits
        have same : -(value.natAbs : Int) = value := by omega
        rw [renderInteger_of_neg below, form]
        rwa [total, same] at literal
      · have literal := Literal.positive leading digits
        have same : (value.natAbs : Int) = value := by omega
        rw [renderInteger_of_nonneg (by omega), form]
        rwa [total, same] at literal

theorem Literal.numeral {text : List Char} {value : Int}
    (literal : Literal text value) : Text.Numeral text value := by
  obtain rfl := literal_iff.mp literal
  exact Text.numeral_renderInteger value

theorem Blank.blanks {text : List Char} (blank : Blank text) :
    Text.Blanks text := by
  intro letter member
  have space := blank letter member
  simp only [isSpace, Bool.or_eq_true, decide_eq_true_eq] at space
  rcases space with ((rfl | rfl) | rfl) | rfl <;> rfl

end Json

theorem Text.Numeral.unique {text : List Char} {first second : Int}
    (numeral : Numeral text first) (other : Numeral text second) :
    first = second := by
  have reads := integer?_eq_some_iff.mpr numeral
  rw [integer?_eq_some_iff.mpr other] at reads
  exact (Option.some.inj reads).symm

namespace RequestId

open Json (Blank Literal Quotes)
open Text (Blanks Numeral)

/-- A token that presents an integer: its literal, or a quoted text that holds
a numeral of it between blanks. -/
inductive Token : List Char → Int → Prop where
  | literal {token : List Char} {value : Int} :
      Literal token value → Token token value
  | quoted {written before numeral behind : List Char} {value : Int} :
      Quotes written (before ++ (numeral ++ behind)) →
      Blanks before → Blanks behind → Numeral numeral value →
      Token ('"' :: (written ++ ['"'])) value

/-- The text is a token that presents this integer. -/
def Presents (raw : String) (value : Int) : Prop :=
  ∃ before token behind,
    raw.toList = before ++ (token ++ behind) ∧ Blank before ∧ Blank behind ∧
      Token token value

/-- The text can be read, and its value stands for this id. -/
def Gives (raw : String) (id : RequestId) : Prop :=
  ∃ value, Json.parse raw = .ok value ∧ ofValue? value = some id

variable {raw : String}

/-- A text that presents an id is a document of what names the id. -/
theorem exists_document {id : RequestId} (presents : Presents raw id.toInt) :
    ∃ value, Json.Document raw.toList value ∧ Names value id := by
  obtain ⟨before, token, behind, split, leading, trailing, form⟩ := presents
  have document : ∀ {value}, Json.Scalar token value →
      Json.Document raw.toList value := by
    intro value scalar
    exact ⟨before, token, behind, split, leading, trailing, scalar.spells _⟩
  cases form with
  | literal literal =>
      obtain rfl := Json.literal_iff.mp literal
      exact ⟨_, document (.number (.integer (Json.storable_toInt id))),
        .integer id⟩
  | quoted quotes blanks others numeral =>
      refine ⟨_, document (.text quotes), ?_⟩
      exact .text String.toList_ofList blanks others numeral

theorem presents_of_document {value : Json.Value} {id : RequestId}
    (document : Json.Document raw.toList value) (names : Names value id) :
    Presents raw id.toInt := by
  obtain ⟨before, token, behind, split, leading, trailing, spelled⟩ := document
  refine ⟨before, token, behind, split, leading, trailing, ?_⟩
  rcases spelled with scalar | compound
  · cases names with
    | integer =>
        cases scalar with
        | number numeral =>
            cases numeral with
            | integer => exact .literal (Json.literal_iff.mpr rfl)
    | text content blanks others numeral =>
        cases scalar with
        | text quotes =>
            rw [String.toList_ofList] at content
            exact .quoted (content ▸ quotes) blanks others numeral
  · cases compound <;> cases names

/-! ## One integer at most -/

theorem not_numeral_quote {rest : List Char} {value : Int} :
    ¬Numeral ('"' :: rest) value := by
  intro numeral
  cases numeral with
  | plain digits => exact absurd digits.head (by decide)

theorem Token.solid_head {token : List Char} {value : Int}
    (form : Token token value) :
    ∃ letter rest, token = letter :: rest ∧
      Text.isBlank letter = false := by
  cases form with
  | literal literal =>
      obtain ⟨some, solid⟩ := literal.numeral.solid
      obtain ⟨letter, rest, rfl⟩ := List.exists_cons_of_ne_nil some
      exact ⟨letter, rest, rfl, solid letter List.mem_cons_self⟩
  | quoted => exact ⟨'"', _, rfl, by decide⟩

/-- The numeral in a text that a token begins. -/
def numeralIn : List Char → List Char
  | '"' :: rest =>
      match Json.readQuoted [] rest with
      | .ok (content, _) => Text.trim content.toList
      | .error _ => []
  | text => Text.trim text

private theorem numeralIn_of_ne {letter : Char} (plain : letter ≠ '"')
    (rest : List Char) :
    numeralIn (letter :: rest) = Text.trim (letter :: rest) := by
  simp [numeralIn, plain]

private theorem Token.numeral {token behind : List Char} {value : Int}
    (form : Token token value) (blank : Blank behind) :
    Numeral (numeralIn (token ++ behind)) value := by
  cases form with
  | literal literal =>
      have numeral := literal.numeral
      have cut := Text.trim_of_solid .nil blank.blanks numeral.solid
      obtain ⟨letter, rest, rfl⟩ :=
        List.exists_cons_of_ne_nil numeral.solid.1
      have plain : letter ≠ '"' := by
        rintro rfl
        exact not_numeral_quote numeral
      rw [List.cons_append, numeralIn_of_ne plain]
      rw [List.nil_append, List.cons_append] at cut
      rwa [cut]
  | quoted quotes before others numeral =>
      have reads := Json.readQuoted_complete quotes [] behind
      have cut := Text.trim_of_solid before others numeral.solid
      simpa [numeralIn, reads, cut] using numeral

theorem Presents.numeral {value : Int} (presents : Presents raw value) :
    Numeral (numeralIn (raw.toList.dropWhile Text.isBlank)) value := by
  obtain ⟨before, token, behind, split, leading, trailing, form⟩ := presents
  obtain ⟨letter, rest, rfl, solid⟩ := form.solid_head
  rw [split, List.dropWhile_append_of_pos leading.blanks, List.cons_append,
    List.dropWhile_cons_of_neg (by simp [solid])]
  exact form.numeral trailing

theorem Presents.unique {first second : Int} (presents : Presents raw first)
    (again : Presents raw second) : first = second :=
  presents.numeral.unique again.numeral

/-! ## What is accepted -/

theorem gives_of_presents {id : RequestId}
    (presents : Presents raw id.toInt) : Gives raw id := by
  obtain ⟨value, document, names⟩ := exists_document presents
  exact ⟨value, Json.parse_iff.mpr document, ofValue?_eq_some_iff.mpr names⟩

theorem presents_of_literal {token : List Char} {value : Int}
    (literal : Literal token value) : Presents (String.ofList token) value := by
  refine ⟨[], token, [], ?_, .nil, .nil, .literal literal⟩
  rw [String.toList_ofList, List.append_nil, List.nil_append]

theorem presents_of_numeral {before numeral behind : List Char} {value : Int}
    (leading : Blanks before) (trailing : Blanks behind)
    (form : Numeral numeral value) :
    Presents
      (Json.Value.text (String.ofList (before ++ (numeral ++ behind)))).compact
      value := by
  have quotes := Json.quotes_escape (before ++ (numeral ++ behind))
  refine ⟨[], _, [], ?_, .nil, .nil, .quoted quotes leading trailing form⟩
  simp [Json.Value.compact, Json.Value.render, Json.quote]

theorem ofValue?_iff {value : Json.Value}
    (read : Json.parse raw = .ok value) (id : RequestId) :
    ofValue? value = some id ↔ Presents raw id.toInt := by
  rw [ofValue?_eq_some_iff]
  constructor
  · exact presents_of_document (Json.parse_iff.mp read)
  · intro presents
    obtain ⟨other, document, names⟩ := exists_document presents
    rw [Json.parse_iff.mpr document] at read
    cases read
    exact names

private theorem exists_toInt_eq
    {number : Int} (low : -9223372036854775808 ≤ number)
    (high : number ≤ 9223372036854775807) :
    ∃ id : RequestId, id.toInt = number := by
  have least : Int64.minValue.toInt = -9223372036854775808 := rfl
  refine ⟨Int64.ofInt number, Int64.toInt_ofInt_of_le ?_ ?_⟩ <;> omega

/-- An integer that is presented is no id just when 64 bits do not hold it. -/
theorem ofValue?_eq_none_iff {value : Json.Value} {number : Int}
    (read : Json.parse raw = .ok value) (presents : Presents raw number) :
    ofValue? value = none ↔
      number < -9223372036854775808 ∨ 9223372036854775807 < number := by
  constructor
  · intro absent
    by_contra within
    obtain ⟨id, same⟩ := exists_toInt_eq
      (show -9223372036854775808 ≤ number by omega) (by omega)
    have found := (ofValue?_iff read id).mpr (same ▸ presents)
    rw [absent] at found
    cases found
  · intro huge
    apply Option.eq_none_iff_forall_ne_some.mpr
    intro id found
    have same := presents.unique ((ofValue?_iff read id).mp found)
    have low := id.le_toInt
    have high := id.toInt_lt
    omega

/-- From a text that can be read an id comes just when the text presents it, as
an integer literal or as a quoted numeral between blanks, and nothing comes
from an integer that 64 bits do not hold. -/
theorem ids_are_accepted_exactly :
    (∀ {raw : String} {value : Json.Value}, Json.parse raw = .ok value →
      (∀ id : RequestId,
        ofValue? value = some id ↔ Presents raw id.toInt) ∧
      (∀ number, Presents raw number →
        (∀ id, ofValue? value = some id → id.toInt = number) ∧
        (ofValue? value = none ↔
          number < -9223372036854775808 ∨ 9223372036854775807 < number)) ∧
      ((∀ number, ¬Presents raw number) → ofValue? value = none)) ∧
    (∀ {raw : String} {id : RequestId},
      Presents raw id.toInt → Gives raw id) ∧
    ∀ (id : RequestId) {before behind : List Char},
      Blanks before → Blanks behind →
        let decimal := Json.renderInteger id.toInt
        Gives (String.ofList decimal) id ∧
          Gives
            (Json.Value.text
              (String.ofList (before ++ (decimal ++ behind)))).compact id := by
  refine ⟨?_, ?_, ?_⟩
  · intro raw value read
    refine ⟨ofValue?_iff read, ?_, ?_⟩
    · intro number presents
      refine ⟨?_, ofValue?_eq_none_iff read presents⟩
      intro id found
      exact ((ofValue?_iff read id).mp found).unique presents
    · intro nothing
      apply Option.eq_none_iff_forall_ne_some.mpr
      intro id found
      exact nothing id.toInt ((ofValue?_iff read id).mp found)
  · exact gives_of_presents
  · intro id before behind leading trailing decimal
    constructor
    · exact gives_of_presents (presents_of_literal (Json.literal_iff.mpr rfl))
    · exact gives_of_presents (presents_of_numeral leading trailing
        (Text.numeral_renderInteger id.toInt))

/-- A quoted numeral with a needless sign and zeros between blanks, the first
integer that is too large, one with a fraction, and the least id. -/
theorem padded_numeral_accepted :
    let padded := "\t\"\\u2003+0042\\u000b\" "
    let large := String.ofList (Json.renderInteger 9223372036854775808)
    let broken := "1.0"
    let least : RequestId := Int64.minValue
    (Presents padded 42 ∧ Gives padded 42) ∧
      (∃ value, Json.parse large = .ok value ∧
        Presents large 9223372036854775808 ∧ ofValue? value = none) ∧
      (∃ value, Json.parse broken = .ok value ∧
        (∀ number, ¬Presents broken number) ∧ ofValue? value = none) ∧
      Gives
        (Json.Value.text (String.ofList
          (['\u2003'] ++ (Json.renderInteger least.toInt ++ ['\x0c'])))
            ).compact least := by
  intro padded large broken least
  obtain ⟨accepted, read, given⟩ := ids_are_accepted_exactly
  refine ⟨?_, ?_, ?_, ?_⟩
  · have found : ∃ value ∈ (Json.parse padded).toOption,
        ofValue? value = some 42 := by decide +kernel
    obtain ⟨value, parsed, named⟩ := found
    have presents : Presents padded (42 : RequestId).toInt :=
      ((accepted (Json.ok_of_toOption parsed)).1 42).mp named
    exact ⟨presents, read presents⟩
  · have presents : Presents large 9223372036854775808 :=
      presents_of_literal (Json.literal_iff.mpr rfl)
    have found : (Json.parse large).toOption.isSome := by decide +kernel
    obtain ⟨value, parsed⟩ := Option.isSome_iff_exists.mp found
    have parsed := Json.ok_of_toOption parsed
    obtain ⟨-, absent⟩ := (accepted parsed).2.1 _ presents
    exact ⟨value, parsed, presents, absent.mpr (.inr (by decide))⟩
  · have nothing : ∀ number, ¬Presents broken number := by
      intro number presents
      have reads := Text.integer?_eq_some_iff.mpr presents.numeral
      have none : Text.integer?
          (numeralIn (broken.toList.dropWhile Text.isBlank)) = none := by
        decide +kernel
      rw [none] at reads
      cases reads
    have found : (Json.parse broken).toOption.isSome := by decide +kernel
    obtain ⟨value, parsed⟩ := Option.isSome_iff_exists.mp found
    have parsed := Json.ok_of_toOption parsed
    exact ⟨value, parsed, nothing, (accepted parsed).2.2 nothing⟩
  · have leading : Blanks ['\u2003'] := by
      simp [Blanks, Text.isBlank, Text.blankRanges]
    have trailing : Blanks ['\x0c'] := by
      simp [Blanks, Text.isBlank, Text.blankRanges]
    exact (given least leading trailing).2

end RequestId

end Switchboard
