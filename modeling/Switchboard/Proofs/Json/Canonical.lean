import Switchboard.Proofs.Json.Rendering

/-!
# Canonical forms

However a text spells a value without binary64 numbers, what is read from it is
as the writer expects it: its integers are in range, the members of its objects
stand in order, and it is no deeper than there was room.  So its compact text is
read back, and is the same for equal values only.
-/

namespace Switchboard.Json

/-- A value all of whose numbers are integers. -/
inductive Integral : Value → Prop where
  | null : Integral .null
  | boolean {value : Bool} : Integral (.boolean value)
  | integer {value : Int} : Integral (.number (.integer value))
  | text {value : String} : Integral (.text value)
  | list {items : List Value} :
      (∀ item ∈ items, Integral item) → Integral (.list items)
  | object {members : List (String × Value)} :
      (∀ member ∈ members, Integral member.2) → Integral (.object members)

theorem Integral.members {members : List (String × Value)}
    (integral : Integral (.object members)) {member : String × Value}
    (inside : member ∈ members) : Integral member.2 := by
  cases integral with
  | object whole => exact whole member inside

mutual

/-- Whether all numbers of a value are integers. -/
def Value.isIntegral : Value → Bool
  | .number (.float _) => false
  | .list items => itemsAreIntegral items
  | .object members => membersAreIntegral members
  | _ => true
termination_by structural value => value

def itemsAreIntegral : List Value → Bool
  | [] => true
  | item :: rest => item.isIntegral && itemsAreIntegral rest
termination_by structural items => items

def membersAreIntegral : List (String × Value) → Bool
  | [] => true
  | (_, value) :: rest => value.isIntegral && membersAreIntegral rest
termination_by structural members => members

end

mutual

theorem Integral.of_isIntegral (value : Value)
    (passed : value.isIntegral = true) : Integral value := by
  cases value with
  | null => exact .null
  | boolean => exact .boolean
  | text => exact .text
  | number number =>
      cases number with
      | integer => exact .integer
      | float => cases passed
  | list items => exact .list (integral_items items passed)
  | object members => exact .object (integral_members members passed)
termination_by structural value

theorem integral_items (items : List Value)
    (passed : itemsAreIntegral items = true) :
    ∀ item ∈ items, Integral item := by
  cases items with
  | nil => exact fun _ inside => absurd inside List.not_mem_nil
  | cons first rest =>
      obtain ⟨head, tail⟩ := Bool.and_eq_true_iff.mp passed
      rw [List.forall_mem_cons]
      exact ⟨.of_isIntegral first head, integral_items rest tail⟩
termination_by structural items

theorem integral_members (members : List (String × Value))
    (passed : membersAreIntegral members = true) :
    ∀ member ∈ members, Integral member.2 := by
  cases members with
  | nil => exact fun _ inside => absurd inside List.not_mem_nil
  | cons first rest =>
      obtain ⟨name, value⟩ := first
      obtain ⟨head, tail⟩ := Bool.and_eq_true_iff.mp passed
      rw [List.forall_mem_cons]
      exact ⟨.of_isIntegral value head, integral_members rest tail⟩
termination_by structural members

end

private theorem itemsAreIntegral_eq (items : List Value) :
    itemsAreIntegral items = items.all Value.isIntegral := by
  induction items with
  | nil => rfl
  | cons item rest induction => rw [itemsAreIntegral, induction, List.all_cons]

private theorem membersAreIntegral_eq (members : List (String × Value)) :
    membersAreIntegral members =
      members.all fun member => member.2.isIntegral := by
  induction members with
  | nil => rfl
  | cons member rest induction =>
      rw [membersAreIntegral, induction, List.all_cons]

theorem isIntegral_iff {value : Value} :
    value.isIntegral = true ↔ Integral value := by
  constructor
  · exact Integral.of_isIntegral value
  · intro integral
    induction integral with
    | list _ induction =>
        rw [Value.isIntegral, itemsAreIntegral_eq]
        exact List.all_eq_true.mpr induction
    | object _ induction =>
        rw [Value.isIntegral, membersAreIntegral_eq]
        exact List.all_eq_true.mpr induction
    | _ => rfl

instance : DecidablePred Integral :=
  fun _ => decidable_of_iff _ isIntegral_iff

/-! ## What is read is plain -/

theorem Parts.spelled {α : Type} {Part : List Char → α → Prop} {first : Bool}
    {inside : List Char} {parts : List α} (row : Parts Part first inside parts)
    {part : α} (member : part ∈ parts) : ∃ written, Part written part := by
  induction row with
  | nil => cases member
  | cons _ spelled _ induction =>
      rcases List.mem_cons.mp member with rfl | later
      · exact ⟨_, spelled⟩
      · exact induction later

theorem Member.spelled {Element : List Char → Value → Prop}
    {written : List Char} {member : String × Value}
    (spells : Member Element written member) :
    ∃ spelling, Element spelling member.2 := by
  cases spells with
  | intro _ _ _ spelled => exact ⟨_, spelled⟩

private theorem Scalar.plain {written : List Char} {value : Value}
    (scalar : Scalar written value) (integral : Integral value) (room : Nat) :
    Plain room value := by
  cases scalar with
  | null => exact .null
  | yes => exact .boolean
  | no => exact .boolean
  | text => exact .text
  | number numeral =>
      cases numeral with
      | integer storable => exact .integer storable
      | float => cases integral

/-- What is spelled without binary64 numbers is plain. -/
theorem Spells.plain {room : Nat} {written : List Char} {value : Value}
    (spelled : Spells room written value) (integral : Integral value) :
    Plain room value := by
  induction room generalizing written value with
  | zero =>
      have scalar : Scalar written value := spelled
      exact scalar.plain integral 0
  | succ room induction =>
      rcases spelled with scalar | compound
      · exact scalar.plain integral (room + 1)
      · cases compound with
        | list row =>
            cases integral with
            | list whole =>
                apply Plain.list
                intro item inside
                obtain ⟨spelling, spelled⟩ := row.spelled inside
                exact induction spelled (whole item inside)
        | object row =>
            apply Plain.object
            · intro member inside
              have whole := integral.members inside
              rcases Members.mem_gather inside with none | given
              · cases none
              · obtain ⟨_, spelled⟩ := row.spelled given
                obtain ⟨_, spelled⟩ := spelled.spelled
                exact induction spelled whole
            · exact Members.sorted_gather .nil _

theorem Plain.widen {room wider : Nat} {value : Value}
    (plain : Plain room value) (more : room ≤ wider) : Plain wider value := by
  induction plain generalizing wider with
  | null => exact .null
  | boolean => exact .boolean
  | integer storable => exact .integer storable
  | text => exact .text
  | list _ induction =>
      obtain ⟨wider, rfl⟩ := Nat.exists_eq_add_one.mpr
        (Nat.lt_of_lt_of_le (Nat.succ_pos _) more)
      apply Plain.list
      intro item inside
      exact induction item inside (Nat.le_of_succ_le_succ more)
  | object _ sorted induction =>
      obtain ⟨wider, rfl⟩ := Nat.exists_eq_add_one.mpr
        (Nat.lt_of_lt_of_le (Nat.succ_pos _) more)
      apply Plain.object
      · intro member inside
        exact induction member inside (Nat.le_of_succ_le_succ more)
      · exact sorted

/-- A plain value is told by its compact text. -/
theorem compact_inj {first second : Value}
    (plain : Plain nestingLimit first) (alsoPlain : Plain nestingLimit second)
    (same : first.compact = second.compact) : first = second := by
  have read := parse_compact plain
  rw [same, parse_compact alsoPlain] at read
  exact (Except.ok.inj read).symm

end Switchboard.Json
