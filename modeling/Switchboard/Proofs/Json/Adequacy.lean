import Switchboard.Proofs.Json.Numerals
import Switchboard.Proofs.Json.Quotations

/-!
# The reader reads the grammar

What the reader makes of a text is what the grammar says of it: the reader
gives a value exactly when the text is a document of that value.  Soundness
goes along the calls of the reader, completeness along the room of the value
and the parts inside.
-/

namespace Switchboard.Json

theorem bind_eq_ok {ε α β : Type} {first : Except ε α}
    {next : α → Except ε β} {outcome : β}
    (run : first >>= next = .ok outcome) :
    ∃ middle, first = .ok middle ∧ next middle = .ok outcome := by
  cases first with
  | error fault => cases run
  | ok middle => exact ⟨middle, rfl, run⟩

theorem ok_of_toOption {ε α : Type} {outcome : Except ε α} {value : α}
    (some : outcome.toOption = some value) : outcome = .ok value := by
  cases outcome with
  | error fault => cases some
  | ok other =>
      cases some
      rfl

/-! ## Soundness -/

/-- A value at the front of a text. -/
def Fronts (room : Nat) (text : List Char) (value : Value)
    (left : List Char) : Prop :=
  ∃ blanks written,
    text = blanks ++ (written ++ left) ∧ Blank blanks ∧
      Spells room written value

/-- Parts at the front of a text, with the letter that closes them. -/
def Encloses {α : Type} (Part : List Char → α → Prop) (first : Bool)
    (closing : Char) (text : List Char) (parts : List α)
    (left : List Char) : Prop :=
  ∃ inside, text = inside ++ closing :: left ∧ Parts Part first inside parts

theorem Encloses.nil {α : Type} {Part : List Char → α → Prop} {first : Bool}
    {closing : Char} {text left : List Char}
    (closed : skipSpaces text = closing :: left) :
    Encloses Part first closing text [] left := by
  obtain ⟨blanks, blank, split⟩ := exists_blank text
  exact ⟨blanks, closed ▸ split, .nil blank⟩

theorem Encloses.cons {α : Type} {Part : List Char → α → Prop} {first : Bool}
    {closing : Char} {opening written text left : List Char} {part : α}
    {parts : List α} (opens : Opening first opening)
    (spelled : Part written part)
    (others : Encloses Part false closing text parts left) :
    Encloses Part first closing (opening ++ (written ++ text)) (part :: parts)
      left := by
  obtain ⟨inside, rfl, rest⟩ := others
  refine ⟨opening ++ (written ++ inside), ?_, .cons opens spelled rest⟩
  simp only [List.append_assoc]

/-- What so many calls of the readers give is spelled by what they took. -/
structure ReadsSoundly (calls : Nat) : Prop where
  value {room : Nat} {text left : List Char} {value : Value} :
    readValue calls room text = .ok (value, left) →
      Fronts room text value left
  items {room : Nat} {first : Bool} {taken : List Value}
      {text left : List Char} {value : Value} :
    readItems calls room first taken text = .ok (value, left) →
      ∃ items, value = .list (taken.reverse ++ items) ∧
        Encloses (Spells room) first ']' text items left
  members {room : Nat} {first : Bool} {taken : Members}
      {text left : List Char} {value : Value} :
    readMembers calls room first taken text = .ok (value, left) →
      ∃ members, value = .object (taken.gather members) ∧
        Encloses (Member (Spells room)) first '\x7d' text members left
  member {room : Nat} {taken : Members} {text left : List Char}
      {value : Value} :
    readMember calls room taken text = .ok (value, left) →
      ∃ written rest member members, text = written ++ rest ∧
        Member (Spells room) written member ∧
          value = .object (taken.gather (member :: members)) ∧
            Encloses (Member (Spells room)) false '\x7d' rest members left

theorem Scalar.spells {written : List Char} {value : Value}
    (scalar : Scalar written value) (room : Nat) :
    Spells room written value := by
  cases room with
  | zero => exact scalar
  | succ room => exact .inl scalar

theorem Scalar.fronts {text written left : List Char} {value : Value}
    (scalar : Scalar written value) (room : Nat)
    (found : skipSpaces text = written ++ left) :
    Fronts room text value left := by
  obtain ⟨blanks, blank, split⟩ := exists_blank text
  exact ⟨blanks, written, found ▸ split, blank, scalar.spells room⟩

theorem readWord_sound {word text left : List Char}
    (reads : readWord word text = .ok left) : text = word ++ left := by
  induction word generalizing text with
  | nil =>
      cases reads
      rfl
  | cons wanted word induction =>
      cases text with
      | nil => cases reads
      | cons letter text =>
          by_cases same : letter = wanted
          · rw [readWord, if_pos same] at reads
            rw [same, induction reads, List.cons_append]
          · rw [readWord, if_neg same] at reads
            cases reads

private theorem Scalar.fronts_word
    {text rest left word : List Char} {letter : Char}
    {value result : Value} (scalar : Scalar (letter :: word) value)
    (room : Nat) (found : skipSpaces text = letter :: rest)
    (reads : (do
      let behind ← readWord word rest
      pure (value, behind)) = .ok (result, left)) :
    Fronts room text result left := by
  obtain ⟨behind, spelled, ends⟩ := bind_eq_ok reads
  cases ends
  apply scalar.fronts room
  rw [found, readWord_sound spelled, List.cons_append]

private theorem ReadsSoundly.compound
    {room : Nat} {text inside left : List Char}
    {opening closing : Char} {value : Value}
    (found : skipSpaces text = opening :: (inside ++ closing :: left))
    (compound : Compound (Spells room) (opening :: (inside ++ [closing]))
      value) : Fronts (room + 1) text value left := by
  obtain ⟨blanks, blank, split⟩ := exists_blank text
  refine ⟨blanks, _, ?_, blank, .inr compound⟩
  rw [split, found]
  simp

theorem readValue_sound {calls : Nat} (sound : ReadsSoundly calls)
    {room : Nat} {text left : List Char} {value : Value}
    (reads : readValue (calls + 1) room text = .ok (value, left)) :
    Fronts room text value left := by
  revert reads
  generalize total : calls + 1 = all
  fun_cases readValue all room text with
  | case1 => cases total
  | case2 | case4 | case6 | case12 =>
      intro reads
      cases reads
  | case3 room fewer rest found =>
      intro reads
      obtain ⟨⟨content, behind⟩, quoted, ends⟩ := bind_eq_ok reads
      cases ends
      obtain ⟨written, letters, rfl, quotes, rfl⟩ := readQuoted_sound quoted
      apply (Scalar.text quotes).fronts room
      simp [found]
  | case5 fewer rest found room =>
      cases total
      intro reads
      obtain ⟨items, rfl, inside, rfl, parts⟩ := sound.items reads
      exact ReadsSoundly.compound found (.list parts)
  | case7 fewer rest found room =>
      cases total
      intro reads
      obtain ⟨members, rfl, inside, rfl, parts⟩ := sound.members reads
      exact ReadsSoundly.compound found (.object parts)
  | case8 room fewer letter rest _ _ _ found =>
      intro reads
      obtain ⟨⟨number, behind⟩, numeral, ends⟩ := bind_eq_ok reads
      cases ends
      obtain ⟨token, split, spelled, -⟩ := readNumber_sound numeral
      apply (Scalar.number spelled).fronts room
      rw [found, split]
  | case9 room fewer rest _ _ _ found =>
      exact Scalar.null.fronts_word room found
  | case10 room fewer rest _ _ _ found =>
      exact Scalar.yes.fronts_word room found
  | case11 room fewer rest _ _ _ found =>
      exact Scalar.no.fronts_word room found

/-- What stands in front of the next part, as far as the readers look. -/
theorem exists_opening {first : Bool} {text rest : List Char}
    (found : if first then skipSpaces text = rest else
      ∃ behind, skipSpaces text = ',' :: behind ∧ skipSpaces behind = rest) :
    ∃ opening, Opening first opening ∧ text = opening ++ rest := by
  obtain ⟨blanks, blank, split⟩ := exists_blank text
  cases first with
  | true =>
      obtain rfl : skipSpaces text = rest := found
      exact ⟨blanks, .first blank, split⟩
  | false =>
      obtain ⟨behind, comma, rfl⟩ := found
      obtain ⟨others, alsoBlank, again⟩ := exists_blank behind
      refine ⟨_, .later blank alsoBlank, ?_⟩
      rw [List.append_assoc, List.cons_append, ← again, ← comma]
      exact split

private theorem readItems_item {calls : Nat} (sound : ReadsSoundly calls)
    {room : Nat} {first : Bool} {taken : List Value}
    {text rest left : List Char} {value : Value}
    (found : if first then skipSpaces text = rest else
      ∃ behind, skipSpaces text = ',' :: behind ∧ skipSpaces behind = rest)
    (reads :
      (do
        let (item, behind) ← readValue calls room rest
        readItems calls room false (item :: taken) behind) =
          .ok (value, left)) :
    ∃ items, value = .list (taken.reverse ++ items) ∧
      Encloses (Spells room) first ']' text items left := by
  obtain ⟨opening, opens, rfl⟩ := exists_opening found
  obtain ⟨⟨item, behind⟩, front, others⟩ := bind_eq_ok reads
  obtain ⟨blanks, written, rfl, blank, spelled⟩ := sound.value front
  obtain ⟨items, rfl, enclosed⟩ := sound.items others
  refine ⟨item :: items, by simp, ?_⟩
  rw [← List.append_assoc]
  exact enclosed.cons (opens.append blank) spelled

theorem readItems_sound {calls : Nat} (sound : ReadsSoundly calls)
    {room : Nat} {first : Bool} {taken : List Value}
    {text left : List Char} {value : Value}
    (reads : readItems (calls + 1) room first taken text =
      .ok (value, left)) :
    ∃ items, value = .list (taken.reverse ++ items) ∧
      Encloses (Spells room) first ']' text items left := by
  revert reads
  generalize total : calls + 1 = all
  fun_cases readItems all room first taken text with
  | case1 => cases total
  | case2 | case5 | case7 =>
      intro reads
      cases reads
  | case3 fewer rest found =>
      intro reads
      cases reads
      exact ⟨[], by rw [List.append_nil], .nil found⟩
  | case4 fewer letter rest _ found isFirst =>
      cases total
      intro reads
      apply readItems_item sound _ reads
      rw [if_pos isFirst]
      exact found
  | case6 fewer rest later _ found =>
      cases total
      intro reads
      apply readItems_item sound _ reads
      rw [if_neg later]
      exact ⟨rest, found, rfl⟩

private theorem readMembers_member {calls : Nat} (sound : ReadsSoundly calls)
    {room : Nat} {first : Bool} {taken : Members}
    {text rest left : List Char} {value : Value}
    (found : if first then skipSpaces text = rest else
      ∃ behind, skipSpaces text = ',' :: behind ∧ skipSpaces behind = rest)
    (reads : readMember calls room taken rest = .ok (value, left)) :
    ∃ members, value = .object (taken.gather members) ∧
      Encloses (Member (Spells room)) first '\x7d' text members left := by
  obtain ⟨opening, opens, rfl⟩ := exists_opening found
  obtain ⟨written, behind, member, members, rfl, spelled, rfl, enclosed⟩ :=
    sound.member reads
  exact ⟨member :: members, rfl, enclosed.cons opens spelled⟩

theorem readMembers_sound {calls : Nat} (sound : ReadsSoundly calls)
    {room : Nat} {first : Bool} {taken : Members}
    {text left : List Char} {value : Value}
    (reads : readMembers (calls + 1) room first taken text =
      .ok (value, left)) :
    ∃ members, value = .object (taken.gather members) ∧
      Encloses (Member (Spells room)) first '\x7d' text members left := by
  revert reads
  generalize total : calls + 1 = all
  fun_cases readMembers all room first taken text with
  | case1 => cases total
  | case2 | case5 | case6 | case8 =>
      intro reads
      cases reads
  | case3 fewer rest found =>
      intro reads
      cases reads
      exact ⟨[], rfl, .nil found⟩
  | case4 fewer letter rest _ found isFirst =>
      cases total
      intro reads
      apply readMembers_member sound _ reads
      rw [if_pos isFirst]
      exact found
  | case7 fewer rest later _ found =>
      cases total
      intro reads
      apply readMembers_member sound _ reads
      rw [if_neg later]
      exact ⟨rest, found, rfl⟩

theorem readColon_sound {text left : List Char}
    (reads : readColon text = .ok left) :
    ∃ blanks, Blank blanks ∧ text = blanks ++ ':' :: left := by
  obtain ⟨blanks, blank, split⟩ := exists_blank text
  revert reads
  fun_cases readColon text with
  | case1 | case3 =>
      intro reads
      cases reads
  | case2 rest found =>
      intro reads
      cases reads
      exact ⟨blanks, blank, found ▸ split⟩

theorem readMember_sound {calls : Nat} (sound : ReadsSoundly calls)
    {room : Nat} {taken : Members} {text left : List Char} {value : Value}
    (reads : readMember (calls + 1) room taken text = .ok (value, left)) :
    ∃ written rest member members, text = written ++ rest ∧
      Member (Spells room) written member ∧
        value = .object (taken.gather (member :: members)) ∧
          Encloses (Member (Spells room)) false '\x7d' rest members
            left := by
  revert reads
  generalize total : calls + 1 = all
  fun_cases readMember all room taken text with
  | case1 => cases total
  | case3 =>
      intro reads
      cases reads
  | case2 fewer rest =>
      cases total
      intro reads
      obtain ⟨⟨name, behindName⟩, quoted, reads⟩ := bind_eq_ok reads
      obtain ⟨behindColon, colon, reads⟩ := bind_eq_ok reads
      obtain ⟨⟨held, behind⟩, front, others⟩ := bind_eq_ok reads
      obtain ⟨written, letters, rfl, quotes, rfl⟩ := readQuoted_sound quoted
      obtain ⟨blanks, blank, rfl⟩ := readColon_sound colon
      obtain ⟨inner, spelling, rfl, alsoBlank, spelled⟩ := sound.value front
      obtain ⟨members, rfl, enclosed⟩ := sound.members others
      refine ⟨_, behind, _, members, ?_, .intro quotes blank alsoBlank spelled,
        rfl, enclosed⟩
      simp

theorem reads_soundly (calls : Nat) : ReadsSoundly calls := by
  induction calls with
  | zero =>
      constructor
      all_goals
        intros
        rename_i reads
        simp [readValue, readItems, readMembers, readMember] at reads
  | succ calls sound =>
      constructor
      · exact readValue_sound sound
      · exact readItems_sound sound
      · exact readMembers_sound sound
      · exact readMember_sound sound

/-! ## Completeness -/

/-- A letter that begins a value. -/
def StartsValue (letter : Char) : Prop :=
  isSpace letter = false ∧ letter ≠ ']'

theorem startsValue_of_startsNumber {letter : Char}
    (number : startsNumber letter = true) : StartsValue letter := by
  simp only [startsNumber, Bool.or_eq_true, decide_eq_true_eq] at number
  constructor
  · apply Bool.eq_false_iff.mpr
    intro space
    simp only [isSpace, Bool.or_eq_true, decide_eq_true_eq] at space
    rcases space with ((rfl | rfl) | rfl) | rfl <;> simp at number
  · rintro rfl
    simp at number

theorem Spells.starts {room : Nat} {written : List Char} {value : Value}
    (spelled : Spells room written value) :
    ∃ letter more, written = letter :: more ∧ StartsValue letter := by
  have scalars : Scalar written value →
      ∃ letter more, written = letter :: more ∧ StartsValue letter := by
    intro scalar
    cases scalar with
    | number numeral =>
        obtain ⟨letter, more, same, number⟩ := numeral.starts
        exact ⟨letter, more, same, startsValue_of_startsNumber number⟩
    | _ => exact ⟨_, _, rfl, rfl, by decide⟩
  cases room with
  | zero => exact scalars spelled
  | succ room =>
      rcases spelled with scalar | compound
      · exact scalars scalar
      · cases compound <;> exact ⟨_, _, rfl, rfl, by decide⟩

theorem readValue_blank {blanks : List Char} (blank : Blank blanks)
    (calls room : Nat) (text : List Char) :
    readValue (calls + 1) room (blanks ++ text) =
      readValue (calls + 1) room text := by
  simp only [readValue, skipSpaces_append blank]

private theorem readValue_number
    {letter : Char} (number : startsNumber letter = true)
    (calls room : Nat) (rest : List Char) :
    readValue (calls + 1) room (letter :: rest) = (do
      let (value, left) ← readNumber (letter :: rest)
      pure (.number value, left)) := by
  have starts := startsValue_of_startsNumber number
  have other : ∀ mark, startsNumber mark = false → letter ≠ mark := by
    rintro mark apart rfl
    simp [number] at apart
  have quote := other '"' rfl
  have bracket := other '[' rfl
  have brace := other '\x7b' rfl
  simp [readValue, skipSpaces_cons starts.1, number]

theorem Scalar.accepted {written : List Char} {value : Value}
    (scalar : Scalar written value) (calls room : Nat) {rest : List Char}
    (stops : Stops rest) :
    readValue (calls + 1) room (written ++ rest) = .ok (value, rest) := by
  have solid : ∀ {letter : Char} {more : List Char},
      isSpace letter = false →
        skipSpaces (letter :: more) = letter :: more :=
    fun apart => skipSpaces_cons apart _
  cases scalar with
  | null | yes | no =>
      rw [List.cons_append, readValue, solid rfl]
      simp [startsNumber, readWord]
  | number numeral =>
      obtain ⟨letter, more, rfl, number⟩ := numeral.starts
      have reads := readNumber_complete numeral stops
      rw [List.cons_append] at reads ⊢
      rw [readValue_number number, reads]
      rfl
  | text quotes =>
      have reads := readQuoted_complete quotes [] rest
      rw [List.cons_append, readValue, solid rfl]
      simp only [List.append_assoc, List.singleton_append, reads]
      rfl

/-- What is spelled with so much room is read, in front of anything that may
stand behind a value. -/
def Accepts (room : Nat) : Prop :=
  ∀ {written : List Char} {value : Value}, Spells room written value →
    ∀ {calls : Nat} {rest : List Char}, Stops rest →
      2 * (written ++ rest).length < calls →
        readValue calls room (written ++ rest) = .ok (value, rest)

private theorem readItems_opening {first : Bool} {opening : List Char}
    (opens : Opening first opening) {letter : Char}
    (starts : StartsValue letter) (calls room : Nat) (taken : List Value)
    (rest : List Char) :
    readItems (calls + 1) room first taken (opening ++ letter :: rest) = (do
      let (item, left) ← readValue calls room (letter :: rest)
      readItems calls room false (item :: taken) left) := by
  obtain ⟨solid, apart⟩ := starts
  cases opens with
  | first blank =>
      rw [readItems, skipSpaces_append blank, skipSpaces_cons solid]
      simp
  | later before behind =>
      rw [List.append_assoc, List.cons_append, readItems,
        skipSpaces_append before, skipSpaces_cons (by decide)]
      simp [skipSpaces_append behind, skipSpaces_cons solid]
      split
      · next _ same => exact absurd (List.cons.inj same).1 apart
      · rfl

theorem readItems_complete {room : Nat} (accepts : Accepts room)
    {first : Bool} {inside : List Char} {items : List Value}
    (parts : Parts (Spells room) first inside items) {calls : Nat}
    {taken : List Value} {rest : List Char}
    (enough : 2 * (inside ++ ']' :: rest).length + 1 < calls) :
    readItems calls room first taken (inside ++ ']' :: rest) =
      .ok (.list (taken.reverse ++ items), rest) := by
  induction parts generalizing calls taken with
  | nil blank =>
      cases calls with
      | zero => omega
      | succ calls =>
          rw [readItems, skipSpaces_append blank,
            skipSpaces_cons (by decide)]
          simp
  | @cons first opening written inside item items opens spelled others
      induction =>
      obtain ⟨letter, more, rfl, starts⟩ := spelled.starts
      cases calls with
      | zero => omega
      | succ calls =>
          have stops : Stops (inside ++ ']' :: rest) :=
            others.stops (.inr (.inr (.inl rfl)))
          simp only [List.length_append, List.length_cons] at enough
          have value : readValue calls room
              (letter :: more ++ (inside ++ ']' :: rest)) =
                .ok (item, inside ++ ']' :: rest) := by
            apply accepts spelled stops
            simp only [List.length_append, List.length_cons]
            omega
          have behind : readItems calls room false (item :: taken)
              (inside ++ ']' :: rest) =
                .ok (.list ((item :: taken).reverse ++ items), rest) := by
            apply induction
            simp only [List.length_append, List.length_cons]
            omega
          simp only [List.append_assoc, List.cons_append] at value ⊢
          rw [readItems_opening opens starts, value]
          simp [bind, Except.bind, behind]

theorem readMembers_opening {first : Bool} {opening : List Char}
    (opens : Opening first opening) (calls room : Nat) (taken : Members)
    (rest : List Char) :
    readMembers (calls + 1) room first taken (opening ++ '"' :: rest) =
      readMember calls room taken ('"' :: rest) := by
  have solid : skipSpaces ('"' :: rest) = '"' :: rest :=
    skipSpaces_cons (by decide) rest
  cases opens with
  | first blank =>
      rw [readMembers, skipSpaces_append blank, solid]
      simp
  | later before behind =>
      rw [List.append_assoc, List.cons_append, readMembers,
        skipSpaces_append before, skipSpaces_cons (by decide)]
      simp [skipSpaces_append behind, solid]

theorem readColon_complete {before : List Char} (blank : Blank before)
    (rest : List Char) : readColon (before ++ ':' :: rest) = .ok rest := by
  rw [readColon, skipSpaces_append blank, skipSpaces_cons (by decide)]
  rfl

theorem readMember_complete {room : Nat} (accepts : Accepts room)
    {written : List Char} {member : String × Value}
    (spelled : Member (Spells room) written member) {calls : Nat}
    (taken : Members) {rest : List Char} (stops : Stops rest)
    (enough : 2 * (written ++ rest).length ≤ calls) :
    readMember (calls + 1) room taken (written ++ rest) =
      readMembers calls room false (taken.insert member.1 member.2) rest := by
  obtain ⟨quotes, before, behind, value⟩ := spelled
  rename_i name letters blanks others spelling held
  simp only [List.length_append, List.length_cons] at enough
  have quoted := readQuoted_complete quotes []
    (blanks ++ ':' :: (others ++ (spelling ++ rest)))
  have colon := readColon_complete before (others ++ (spelling ++ rest))
  have reads : readValue calls room (others ++ (spelling ++ rest)) =
      .ok (held, rest) := by
    cases calls with
    | zero => omega
    | succ calls =>
        rw [readValue_blank behind]
        apply accepts value stops
        simp only [List.length_append]
        omega
  simp only [List.cons_append, List.append_assoc]
  rw [readMember, quoted]
  simp [bind, Except.bind, colon, reads]

private theorem Member.starts {room : Nat} {written : List Char}
    {member : String × Value}
    (spelled : Member (Spells room) written member) :
    ∃ more, written = '"' :: more := by
  cases spelled
  exact ⟨_, rfl⟩

theorem readMembers_complete {room : Nat} (accepts : Accepts room)
    {first : Bool} {inside : List Char} {members : List (String × Value)}
    (parts : Parts (Member (Spells room)) first inside members) {calls : Nat}
    {taken : Members} {rest : List Char}
    (enough : 2 * (inside ++ '\x7d' :: rest).length + 1 < calls) :
    readMembers calls room first taken (inside ++ '\x7d' :: rest) =
      .ok (.object (taken.gather members), rest) := by
  induction parts generalizing calls taken with
  | nil blank =>
      cases calls with
      | zero => omega
      | succ calls =>
          rw [readMembers, skipSpaces_append blank,
            skipSpaces_cons (by decide)]
          rfl
  | @cons first opening written inside member members opens spelled others
      induction =>
      obtain ⟨more, rfl⟩ := spelled.starts
      have stops : Stops (inside ++ '\x7d' :: rest) :=
        others.stops (.inr (.inr (.inr rfl)))
      simp only [List.length_append, List.length_cons] at enough
      -- One call for the row of members and one for the member itself.
      obtain ⟨calls, rfl⟩ : ∃ fewer, calls = fewer + 2 :=
        ⟨calls - 2, by omega⟩
      have front : readMember (calls + 1) room taken
          ('"' :: more ++ (inside ++ '\x7d' :: rest)) =
            readMembers calls room false (taken.insert member.1 member.2)
              (inside ++ '\x7d' :: rest) := by
        apply readMember_complete accepts spelled taken stops
        simp only [List.length_append, List.length_cons]
        omega
      simp only [List.append_assoc, List.cons_append] at front ⊢
      rw [readMembers_opening opens, front]
      apply induction
      simp only [List.length_append, List.length_cons]
      omega

theorem accepts_all (room : Nat) : Accepts room := by
  induction room with
  | zero =>
      intro written value scalar calls rest stops enough
      cases calls with
      | zero => omega
      | succ calls => exact Scalar.accepted scalar calls 0 stops
  | succ room accepts =>
      intro written value spelled calls rest stops enough
      cases calls with
      | zero => omega
      | succ calls =>
          rcases spelled with scalar | compound
          · exact scalar.accepted calls (room + 1) stops
          · cases compound with
            | list parts =>
                simp only [List.cons_append, List.append_assoc,
                  List.nil_append] at enough ⊢
                rw [readValue, skipSpaces_cons (by decide)]
                apply readItems_complete accepts parts
                simp only [List.length_cons] at enough
                omega
            | object parts =>
                simp only [List.cons_append, List.append_assoc,
                  List.nil_append] at enough ⊢
                rw [readValue, skipSpaces_cons (by decide)]
                apply readMembers_complete accepts parts
                simp only [List.length_cons] at enough
                omega

/-! ## Documents -/

private theorem requireEnd_iff {text : List Char} :
    requireEnd text = .ok () ↔ Blank text := by
  constructor
  · intro ends
    obtain ⟨blanks, blank, split⟩ := exists_blank text
    unfold requireEnd at ends
    split at ends
    · next left =>
        rw [left, List.append_nil] at split
        exact split ▸ blank
    · cases ends
  · intro blank
    rw [requireEnd, skipSpaces_blank blank]

theorem readDocument_eq_ok {α : Type}
    {read : List Char → Except Fault (α × List Char)} {raw : String}
    {value : α} :
    readDocument read raw = .ok value ↔
      ∃ left, read raw.toList = .ok (value, left) ∧ Blank left := by
  unfold readDocument
  cases front : read raw.toList with
  | error fault => simp [bind, Except.bind, Except.mapError, front]
  | ok outcome =>
      obtain ⟨found, left⟩ := outcome
      cases ends : requireEnd left with
      | error fault =>
          have some : ¬Blank left := by
            intro blank
            rw [requireEnd_iff.mpr blank] at ends
            cases ends
          simp [bind, Except.bind, Except.mapError, front, ends, some]
      | ok done =>
          have none : Blank left := requireEnd_iff.mp ends
          simp [bind, Except.bind, pure, Except.pure, Except.mapError, front,
            ends, none]

/-- The reader of a text gives a value exactly when the text is a document of
that value. -/
theorem parse_iff {raw : String} {value : Value} :
    parse raw = .ok value ↔ Document raw.toList value := by
  rw [parse, readDocument_eq_ok]
  constructor
  · rintro ⟨left, reads, blank⟩
    obtain ⟨before, written, split, leading, spelled⟩ :=
      (reads_soundly _).value reads
    exact ⟨before, written, left, split, leading, blank, spelled⟩
  · rintro ⟨before, written, behind, split, leading, blank, spelled⟩
    refine ⟨behind, ?_, blank⟩
    have stops : Stops behind := by
      simpa using blank.stops (show Stops [] from trivial)
    have bound : callBound raw.toList = 2 * raw.toList.length + 1 + 1 := rfl
    rw [bound, split, readValue_blank leading]
    apply accepts_all _ spelled stops
    simp only [List.length_append]
    omega

end Switchboard.Json
