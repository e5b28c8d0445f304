import Switchboard.Json.Reader

/-!
# The grammar of JSON

Which texts spell which values, told by what a text is put together from.  A
text between quotes is a row of pieces that write one character each.  The
parts of an array or object stand between blanks and commas.  A document is a
value between blanks.

A value is spelled with some room, which is how many arrays and objects may
stand in one another.
-/

namespace Switchboard.Json

/-- A text of blanks. -/
def Blank (text : List Char) : Prop :=
  ∀ letter ∈ text, isSpace letter = true

/-- What may write one character between quotes: the character, an escape
letter, a code unit or a pair of them. -/
inductive Writes : List Char → Char → Prop where
  | plain {letter : Char} :
      letter ≠ '"' → letter ≠ '\\' → 32 ≤ letter.toNat →
      Writes [letter] letter
  | escape {letter meant : Char} :
      escaped? letter = some meant →
      Writes ['\\', letter] meant
  | unit {first second third fourth : Char} {unit : Nat} :
      unitValue? first second third fourth = some unit →
      isLeading unit = false → isTrailing unit = false →
      Writes ['\\', 'u', first, second, third, fourth] (Char.ofNat unit)
  | pair {first second third fourth fifth sixth seventh eighth : Char}
      {leading trailing : Nat} :
      unitValue? first second third fourth = some leading →
      unitValue? fifth sixth seventh eighth = some trailing →
      isLeading leading = true → isTrailing trailing = true →
      Writes
        ['\\', 'u', first, second, third, fourth,
          '\\', 'u', fifth, sixth, seventh, eighth]
        (Char.ofNat (pairValue leading trailing))

/-- What may write a text between quotes. -/
inductive Quotes : List Char → List Char → Prop where
  | nil : Quotes [] []
  | cons {piece written letters : List Char} {letter : Char} :
      Writes piece letter → Quotes written letters →
      Quotes (piece ++ written) (letter :: letters)

/-- The integers that some word of 64 bits holds, signed or not. -/
def Storable (value : Int) : Prop :=
  Int64.minValue.toInt ≤ value ∧ value ≤ UInt64.toNat (-1)

theorem storable_iff {value : Int} :
    Storable value ↔
      -9223372036854775808 ≤ value ∧ value < 18446744073709551616 := by
  have low : Int64.minValue.toInt = -9223372036854775808 := rfl
  have high : (UInt64.toNat (-1) : Int) = 18446744073709551615 := rfl
  rw [Storable, low, high]
  omega

theorem storable_toInt (value : Int64) : Storable value.toInt := by
  have low := value.le_toInt
  have high := value.toInt_lt
  apply storable_iff.mpr
  omega

/-- What spells a number.  An integer has one spelling.  Which binary64 value
a text spells is left to the reader of numbers. -/
inductive Numeral : List Char → Number → Prop where
  | integer {value : Int} :
      Storable value → Numeral (renderInteger value) (.integer value)
  | float {token : List Char} {value : Float} :
      readNumber token = .ok (.float value, []) →
      Numeral token (.float value)

/-- What stands in front of a part: blanks, and a comma between them if it is
not the first. -/
inductive Opening : Bool → List Char → Prop where
  | first {blanks : List Char} : Blank blanks → Opening true blanks
  | later {before behind : List Char} :
      Blank before → Blank behind → Opening false (before ++ ',' :: behind)

/-- A row of parts up to the closing bracket. -/
inductive Parts {α : Type} (Part : List Char → α → Prop) :
    Bool → List Char → List α → Prop where
  | nil {first : Bool} {blanks : List Char} :
      Blank blanks → Parts Part first blanks []
  | cons {first : Bool} {opening written inside : List Char} {part : α}
      {parts : List α} :
      Opening first opening → Part written part →
      Parts Part false inside parts →
      Parts Part first (opening ++ (written ++ inside)) (part :: parts)

/-- A member: its name between quotes, a colon, and its value. -/
inductive Member (Element : List Char → Value → Prop) :
    List Char → String × Value → Prop where
  | intro {name letters before behind written : List Char} {value : Value} :
      Quotes name letters → Blank before → Blank behind →
      Element written value →
      Member Element
        ('"' :: (name ++ '"' :: (before ++ ':' :: (behind ++ written))))
        (String.ofList letters, value)

/-- The members of an object whose text holds these.  A later one replaces
those of its name before it. -/
def Members.gather (held : Members) (written : List (String × Value)) :
    Members :=
  written.foldl (fun held member => held.insert member.1 member.2) held

/-- What spells a value that is no array or object. -/
inductive Scalar : List Char → Value → Prop where
  | null : Scalar ['n', 'u', 'l', 'l'] .null
  | yes : Scalar ['t', 'r', 'u', 'e'] (.boolean true)
  | no : Scalar ['f', 'a', 'l', 's', 'e'] (.boolean false)
  | number {token : List Char} {number : Number} :
      Numeral token number → Scalar token (.number number)
  | text {written letters : List Char} :
      Quotes written letters →
      Scalar ('"' :: (written ++ ['"'])) (.text (String.ofList letters))

/-- What spells an array or object. -/
inductive Compound (Element : List Char → Value → Prop) :
    List Char → Value → Prop where
  | list {inside : List Char} {items : List Value} :
      Parts Element true inside items →
      Compound Element ('[' :: (inside ++ [']'])) (.list items)
  | object {inside : List Char} {members : List (String × Value)} :
      Parts (Member Element) true inside members →
      Compound Element ('\x7b' :: (inside ++ ['\x7d']))
        (.object (Members.gather [] members))

/-- What spells a value with so much room. -/
def Spells : Nat → List Char → Value → Prop
  | 0, written, value => Scalar written value
  | room + 1, written, value =>
      Scalar written value ∨ Compound (Spells room) written value

/-- A document that is one value. -/
def Document (text : List Char) (value : Value) : Prop :=
  ∃ before written behind,
    text = before ++ (written ++ behind) ∧ Blank before ∧ Blank behind ∧
      Spells nestingLimit written value

/-- What a text may begin with behind a value. -/
def Stops : List Char → Prop
  | [] => True
  | letter :: _ =>
      isSpace letter = true ∨ letter = ',' ∨ letter = ']' ∨ letter = '\x7d'

/-! ## Blanks -/

theorem Blank.nil : Blank [] := by
  intro letter member
  cases member

theorem Blank.append {first second : List Char} (before : Blank first)
    (behind : Blank second) : Blank (first ++ second) := by
  intro letter member
  rcases List.mem_append.mp member with inFirst | inSecond
  · exact before letter inFirst
  · exact behind letter inSecond

theorem Blank.stops {blanks rest : List Char} (blank : Blank blanks)
    (stops : Stops rest) : Stops (blanks ++ rest) := by
  cases blanks with
  | nil => exact stops
  | cons letter blanks => exact .inl (blank letter List.mem_cons_self)

theorem skipSpaces_append {blanks : List Char} (blank : Blank blanks)
    (rest : List Char) : skipSpaces (blanks ++ rest) = skipSpaces rest :=
  List.dropWhile_append_of_pos blank

theorem skipSpaces_cons {letter : Char} (solid : isSpace letter = false)
    (rest : List Char) : skipSpaces (letter :: rest) = letter :: rest := by
  apply List.dropWhile_cons_of_neg
  simp [solid]

theorem skipSpaces_blank {blanks : List Char} (blank : Blank blanks) :
    skipSpaces blanks = [] := by
  simpa [skipSpaces] using skipSpaces_append blank []

/-- What is passed over are blanks. -/
theorem exists_blank (text : List Char) :
    ∃ blanks, Blank blanks ∧ text = blanks ++ skipSpaces text := by
  refine ⟨text.takeWhile isSpace, ?_, List.takeWhile_append_dropWhile.symm⟩
  intro letter member
  exact List.all_eq_true.mp List.all_takeWhile letter member

/-! ## Parts -/

theorem Opening.append {first : Bool} {blanks opening : List Char}
    (opens : Opening first opening) (blank : Blank blanks) :
    Opening first (opening ++ blanks) := by
  cases opens with
  | first inner => exact .first (inner.append blank)
  | later before behind =>
      rw [List.append_assoc, List.cons_append]
      exact .later before (behind.append blank)

theorem Parts.stops {α : Type} {Part : List Char → α → Prop}
    {inside rest : List Char} {parts : List α}
    (written : Parts Part false inside parts) (stops : Stops rest) :
    Stops (inside ++ rest) := by
  cases written with
  | nil blank => exact blank.stops stops
  | cons opens part others =>
      cases opens with
      | later before behind =>
          simp only [List.append_assoc, List.cons_append]
          exact before.stops (.inr (.inl rfl))

theorem Parts.imp {α : Type} {Part Other : List Char → α → Prop}
    (weaker : ∀ {written part}, Part written part → Other written part)
    {first : Bool} {inside : List Char} {parts : List α}
    (row : Parts Part first inside parts) :
    Parts Other first inside parts := by
  induction row with
  | nil blank => exact .nil blank
  | cons opens spelled _ induction =>
      exact .cons opens (weaker spelled) induction

theorem Parts.map {α β : Type} {Part : List Char → β → Prop} {form : α → β}
    {first : Bool} {inside : List Char} {parts : List α}
    (row : Parts (fun written part => Part written (form part)) first inside
      parts) : Parts Part first inside (parts.map form) := by
  induction row with
  | nil blank => exact .nil blank
  | cons opens spelled _ induction => exact .cons opens spelled induction

theorem Member.imp {Element Other : List Char → Value → Prop}
    {written : List Char} {member : String × Value}
    (weaker : ∀ {spelling}, Element spelling member.2 →
      Other spelling member.2)
    (spelled : Member Element written member) :
    Member Other written member := by
  cases spelled with
  | intro name before behind value =>
      exact .intro name before behind (weaker value)

end Switchboard.Json
