import Switchboard.Json.Skim
import Switchboard.Proofs.Json.Rendering

/-!
# Passing over what is written

Who passes over a value looks at its grammar only, and keeps a row of the
brackets that are open instead of a limit on them.  So the compact text of a
value is passed over up to its end, in whatever brackets it stands.
-/

namespace Switchboard.Json

/-! ## Scalars -/

private theorem skipQuoted_piece {piece : List Char} {letter : Char}
    (writes : Writes piece letter) (rest : List Char) :
    skipQuoted (piece ++ rest) = skipQuoted rest := by
  cases writes with
  | plain _ slash printable =>
      have shown : ¬letter.toNat < 32 := by omega
      simp [skipQuoted, slash, shown]
  | @escape mark _ meant =>
      have single : mark ≠ 'u' := by
        rintro rfl
        cases meant
      simp [skipQuoted, meant]
  | unit value => simp [skipQuoted, value]
  | pair first second => simp [skipQuoted, first, second]

theorem skipQuoted_complete {written letters : List Char}
    (quotes : Quotes written letters) (rest : List Char) :
    skipQuoted (written ++ '"' :: rest) = .ok rest := by
  induction quotes with
  | nil => rfl
  | cons writes _ induction =>
      rw [List.append_assoc, skipQuoted_piece writes, induction]

private theorem skipNumberEnd_of_stops {rest : List Char} (stops : Stops rest) :
    skipNumberEnd rest = .ok rest := by
  have whole := begins_of_stops stops goesOn_of_isBroken
  cases rest with
  | nil => rfl
  | cons letter rest =>
      obtain ⟨⟨point, lower⟩, upper⟩ :
          (letter ≠ '.' ∧ letter ≠ 'e') ∧ letter ≠ 'E' := by
        simpa [begins, isBroken] using whole
      simp [skipNumberEnd, skipExponent, point, lower, upper]

private theorem skipUnsigned_toDigits (value : Nat) {rest : List Char}
    (stops : Stops rest) :
    skipUnsigned (Nat.toDigits 10 value ++ rest) = .ok rest := by
  have digits := Text.digits_toDigits value
  have ends := begins_digit_of_stops stops
  rcases Nat.eq_zero_or_pos value with rfl | positive
  · rw [Nat.toDigits_zero]
    simp [skipUnsigned, startsWithDigit_eq_begins, ends,
      skipNumberEnd_of_stops stops]
  · obtain ⟨letter, run, form, leading⟩ :=
      Text.exists_toDigits_eq_cons positive
    rw [form] at digits ⊢
    simp [skipUnsigned, skipDigits, leading, digits.head,
      dropWhile_run digits.tail ends, skipNumberEnd_of_stops stops, bind,
      Except.bind]

private theorem skipNumber_signed (negative : Bool) {tail : List Char}
    (ends : begins isMinus tail = false) :
    skipNumber (signOf negative ++ tail) = skipUnsigned tail := by
  cases negative with
  | true => rfl
  | false =>
      cases tail with
      | nil => rfl
      | cons letter tail =>
          have other : letter ≠ '-' := of_decide_eq_false ends
          simp [signOf, skipNumber, other]

theorem skipNumber_complete {value : Int} (storable : Storable value)
    {rest : List Char} (stops : Stops rest) :
    skipNumber (renderInteger value ++ rest) = .ok rest := by
  obtain ⟨-, -, form⟩ := wholeNumber_natAbs storable
  rw [form, List.append_assoc, skipNumber_signed _ (begins_toDigits _ rest)]
  exact skipUnsigned_toDigits _ stops

/-! ## Values and parts -/

theorem skipValue_blank {blanks : List Char} (blank : Blank blanks)
    (calls : Nat) (opened : List Bracket) (text : List Char) :
    skipValue (calls + 1) opened (blanks ++ text) =
      skipValue (calls + 1) opened text := by
  simp only [skipValue, skipSpaces_append blank]

/-- A reader comes to the end of a value with calls that are enough for what is
left.  Each call takes a letter or is followed by one that does. -/
def Arrives (outcome : Except Fault (List Char)) (opened : List Bracket)
    (rest : List Char) : Prop :=
  ∃ calls, 2 * rest.length < calls ∧ outcome = skipBehind calls opened rest

/-- A text is passed over in front of anything that may stand behind a
value. -/
def Skips (written : List Char) : Prop :=
  ∀ {calls : Nat} {rest : List Char}, Stops rest →
    2 * (written ++ rest).length < calls →
      ∀ opened, Arrives (skipValue calls opened (written ++ rest)) opened rest

/-- A text that is passed over wherever a value may stand. -/
structure Passes (written : List Char) : Prop where
  starts : ∃ letter more, written = letter :: more ∧ StartsValue letter
  skips : Skips written

/-- A text that is passed over where a part of an array or object may stand. -/
inductive PassesIn : Bracket → List Char → Prop where
  | item {written : List Char} : Passes written → PassesIn .list written
  | member {written : List Char} {member : String × Value} :
      Member (fun written _ => Passes written) written member →
      PassesIn .object written

theorem PassesIn.starts {bracket : Bracket} {written : List Char}
    (passes : PassesIn bracket written) :
    ∃ letter more, written = letter :: more ∧ isSpace letter = false ∧
      letter ≠ bracket.closing := by
  cases passes with
  | item passes => exact passes.starts
  | member member =>
      cases member
      exact ⟨_, _, rfl, rfl, by decide⟩

theorem skipPart {bracket : Bracket} {written : List Char}
    (passes : PassesIn bracket written) {blanks rest : List Char}
    (blank : Blank blanks) (stops : Stops rest) {calls : Nat}
    (enough : 2 * (blanks ++ (written ++ rest)).length < calls)
    (opened : List Bracket) :
    Arrives
      (do
        let left ← skipName bracket (blanks ++ (written ++ rest))
        skipValue calls opened left)
      opened rest := by
  obtain ⟨calls, rfl⟩ : ∃ fewer, calls = fewer + 1 := ⟨calls - 1, by omega⟩
  simp only [List.length_append] at enough
  cases passes with
  | item passes =>
      have some : 2 * (written ++ rest).length < calls + 1 := by
        simp only [List.length_append]
        omega
      obtain ⟨fewer, left, same⟩ := passes.skips stops some opened
      refine ⟨fewer, left, ?_⟩
      rw [← same, ← skipValue_blank blank]
      rfl
  | member member =>
      obtain ⟨quotes, before, behind, passes⟩ := member
      rename_i name letters inner others spelling value
      simp only [List.length_append, List.length_cons] at enough
      have some : 2 * (spelling ++ rest).length < calls + 1 := by
        simp only [List.length_append]
        omega
      obtain ⟨fewer, left, same⟩ := passes.skips stops some opened
      refine ⟨fewer, left, ?_⟩
      have quoted := skipQuoted_complete quotes
        (inner ++ ':' :: (others ++ (spelling ++ rest)))
      have colon := readColon_complete before (others ++ (spelling ++ rest))
      rw [← same, ← skipValue_blank behind]
      simp only [List.cons_append, List.append_assoc]
      simp [skipName, skipSpaces_append blank, skipSpaces_cons, isSpace,
        quoted, colon, bind, Except.bind]

section Rows

variable {α : Type} {Part : List Char → α → Prop} {bracket : Bracket}
  {inside : List Char} {parts : List α}

theorem Bracket.stops_closing (bracket : Bracket) (rest : List Char) :
    Stops (bracket.closing :: rest) := by
  cases bracket with
  | list => exact .inr (.inr (.inl rfl))
  | object => exact .inr (.inr (.inr rfl))

theorem Bracket.isSpace_closing (bracket : Bracket) :
    isSpace bracket.closing = false := by
  cases bracket <;> rfl

private theorem skipBehind_closing (bracket : Bracket) {blanks : List Char}
    (blank : Blank blanks) (calls : Nat) (opened : List Bracket)
    (rest : List Char) :
    skipBehind (calls + 1) (bracket :: opened)
        (blanks ++ bracket.closing :: rest) = skipBehind calls opened rest := by
  have apart : bracket.closing ≠ ',' := by cases bracket <;> decide
  simp [skipBehind, skipSpaces_append blank,
    skipSpaces_cons bracket.isSpace_closing, apart]

private theorem skipBehind_row {first : Bool}
    (row : Parts Part first inside parts) (later : first = false)
    (passes : ∀ {written part}, Part written part → PassesIn bracket written)
    (opened : List Bracket) {calls : Nat} {rest : List Char}
    (enough : 2 * (inside ++ bracket.closing :: rest).length < calls) :
    Arrives
      (skipBehind calls (bracket :: opened)
        (inside ++ bracket.closing :: rest))
      opened rest := by
  induction row generalizing calls with
  | nil blank =>
      obtain ⟨calls, rfl⟩ : ∃ fewer, calls = fewer + 1 :=
        ⟨calls - 1, by omega⟩
      simp only [List.length_append, List.length_cons] at enough
      exact ⟨calls, by omega, skipBehind_closing bracket blank ..⟩
  | @cons first opening written inside part parts opens spelled others
      induction =>
      cases opens with
      | first => cases later
      | @later before behind blank inner =>
          obtain ⟨calls, rfl⟩ : ∃ fewer, calls = fewer + 1 :=
            ⟨calls - 1, by omega⟩
          simp only [List.length_append, List.length_cons] at enough
          have stops := others.stops (bracket.stops_closing rest)
          have some : 2 * (behind ++ (written ++
              (inside ++ bracket.closing :: rest))).length < calls := by
            simp only [List.length_append, List.length_cons]
            omega
          obtain ⟨fewer, some, same⟩ :=
            skipPart (passes spelled) inner stops some (bracket :: opened)
          obtain ⟨last, left, behindRow⟩ := induction rfl some
          refine ⟨last, left, ?_⟩
          rw [← behindRow, ← same]
          simp only [List.append_assoc, List.cons_append]
          rw [skipBehind, skipSpaces_append blank, skipSpaces_cons rfl]
          rfl

theorem skipInside_row (row : Parts Part true inside parts)
    (passes : ∀ {written part}, Part written part → PassesIn bracket written)
    (opened : List Bracket) {calls : Nat} {rest : List Char}
    (enough : 2 * (inside ++ bracket.closing :: rest).length + 1 < calls) :
    Arrives
      (skipInside calls bracket opened (inside ++ bracket.closing :: rest))
      opened rest := by
  obtain ⟨calls, rfl⟩ : ∃ fewer, calls = fewer + 1 := ⟨calls - 1, by omega⟩
  cases row with
  | nil blank =>
      simp only [List.length_append, List.length_cons] at enough
      refine ⟨calls, by omega, ?_⟩
      simp [skipInside, skipSpaces_append blank,
        skipSpaces_cons bracket.isSpace_closing]
  | @cons _ opening written inside part parts opens spelled others =>
      cases opens with
      | first blank =>
          obtain ⟨letter, more, rfl, solid, apart⟩ := (passes spelled).starts
          simp only [List.length_append, List.length_cons] at enough
          have stops := others.stops (bracket.stops_closing rest)
          have some : 2 * ([] ++ (letter :: more ++
              (inside ++ bracket.closing :: rest))).length < calls := by
            simp only [List.length_append, List.length_cons, List.length_nil]
            omega
          obtain ⟨fewer, some, same⟩ :=
            skipPart (passes spelled) .nil stops some (bracket :: opened)
          obtain ⟨last, left, behindRow⟩ :=
            skipBehind_row others rfl passes opened some
          refine ⟨last, left, ?_⟩
          rw [← behindRow, ← same]
          simp only [List.append_assoc, List.cons_append, List.nil_append]
          rw [skipInside, skipSpaces_append blank, skipSpaces_cons solid]
          simp [apart]

end Rows

/-! ## What is written -/

theorem skipValue_number {letter : Char} (number : startsNumber letter = true)
    (calls : Nat) (opened : List Bracket) (rest : List Char) :
    skipValue (calls + 1) opened (letter :: rest) = (do
      let left ← skipNumber (letter :: rest)
      skipBehind calls opened left) := by
  have starts := startsValue_of_startsNumber number
  have other : ∀ mark, startsNumber mark = false → letter ≠ mark := by
    rintro mark apart rfl
    rw [number] at apart
    cases apart
  rw [skipValue, skipSpaces_cons starts.1]
  simp [other '"' rfl, other '[' rfl, other '\x7b' rfl, number]

/-- A text that one call is enough for. -/
theorem skips_of_step {written : List Char} (some : written ≠ [])
    (step : ∀ (calls : Nat) (opened : List Bracket) {rest : List Char},
      Stops rest → skipValue (calls + 1) opened (written ++ rest) =
        skipBehind calls opened rest) : Skips written := by
  intro calls rest stops enough opened
  have positive := List.length_pos_iff.mpr some
  obtain ⟨calls, rfl⟩ : ∃ fewer, calls = fewer + 1 := ⟨calls - 1, by omega⟩
  rw [List.length_append] at enough
  exact ⟨calls, by omega, step calls opened stops⟩

private theorem skips_of_row {α : Type} {Part : List Char → α → Prop}
    {bracket : Bracket} {inside : List Char} {parts : List α} {letter : Char}
    (row : Parts Part true inside parts)
    (passes : ∀ {written part}, Part written part → PassesIn bracket written)
    (step : ∀ calls opened rest, skipValue (calls + 1) opened (letter :: rest) =
      skipInside calls bracket opened rest) :
    Skips (letter :: (inside ++ [bracket.closing])) := by
  intro calls rest stops enough opened
  obtain ⟨calls, rfl⟩ : ∃ fewer, calls = fewer + 1 := ⟨calls - 1, by omega⟩
  simp only [List.cons_append, List.append_assoc, List.nil_append,
    List.length_cons] at enough ⊢
  have some : 2 * (inside ++ bracket.closing :: rest).length + 1 < calls := by
    omega
  obtain ⟨fewer, left, same⟩ := skipInside_row row passes opened some
  exact ⟨fewer, left, (step calls opened _).trans same⟩

theorem Plain.skips {room : Nat} {value : Value} (plain : Plain room value) :
    Skips value.render := by
  induction plain with
  | null =>
      apply skips_of_step (List.cons_ne_nil _ _)
      intro calls opened rest stops
      simp [skipValue, skipSpaces_cons, isSpace, startsNumber, readWord, bind,
        Except.bind]
  | @boolean _ value =>
      cases value
      all_goals
        apply skips_of_step (List.cons_ne_nil _ _)
        intro calls opened rest stops
        simp [skipValue, skipSpaces_cons, isSpace, startsNumber, readWord, bind,
          Except.bind]
  | @integer _ value storable =>
      obtain ⟨letter, more, form, number⟩ := (Numeral.integer storable).starts
      have spelled : (Value.number (.integer value)).render = letter :: more :=
        form
      rw [spelled]
      apply skips_of_step (List.cons_ne_nil _ _)
      intro calls opened rest stops
      have skips := skipNumber_complete storable stops
      rw [form, List.cons_append] at skips
      rw [List.cons_append, skipValue_number number, skips]
      rfl
  | @text _ value =>
      apply skips_of_step (List.cons_ne_nil _ _)
      intro calls opened rest stops
      have quoted := skipQuoted_complete (quotes_escape value.toList) rest
      simp [skipValue, skipSpaces_cons, isSpace, quoted, bind,
        Except.bind]
  | @list room items plain induction =>
      have row : Parts (fun written _ => Passes written) true
          ([','].intercalate (items.map Value.render)) items := by
        apply (parts_intercalate Value.render _).1
        intro item inside
        exact ⟨(plain item inside).spells.starts, induction item inside⟩
      rw [Value.render, renderItems_eq]
      apply skips_of_row row .item
      intro calls opened rest
      rw [skipValue, skipSpaces_cons rfl]
      rfl
  | @object room members plain sorted induction =>
      have row : Parts (Member fun written _ => Passes written) true
          ([','].intercalate (members.map renderMember)) members := by
        apply (parts_intercalate renderMember _).1
        rintro ⟨name, value⟩ inside
        apply member_render
        exact ⟨(plain _ inside).spells.starts, induction _ inside⟩
      rw [Value.render, renderMembers_eq]
      apply skips_of_row row .member
      intro calls opened rest
      rw [skipValue, skipSpaces_cons rfl]
      rfl

/-- The compact text of a value is passed over. -/
theorem Plain.passes {room : Nat} {value : Value} (plain : Plain room value) :
    Passes value.render :=
  ⟨plain.spells.starts, plain.skips⟩

theorem Passes.skip {written : List Char} (passes : Passes written)
    {blanks rest : List Char} (blank : Blank blanks) (stops : Stops rest) :
    skip (blanks ++ (written ++ rest)) = .ok rest := by
  have enough : 2 * (written ++ rest).length <
      2 * (blanks ++ (written ++ rest)).length + 2 := by
    simp only [List.length_append]
    omega
  obtain ⟨fewer, some, same⟩ := passes.skips stops enough []
  obtain ⟨fewer, rfl⟩ : ∃ less, fewer = less + 1 := ⟨fewer - 1, by omega⟩
  rw [Json.skip, callBound, skipValue_blank blank, same]
  rfl

end Switchboard.Json
