import Switchboard.Proofs.Json.Adequacy
import Switchboard.Proofs.Json.Members

/-!
# What is written is read back

The compact text of a value spells the value, if its integers are in range,
the members of its objects stand in order, and it has enough room.
-/

namespace Switchboard.Json

/-- A value without binary64 numbers that is as a reader gives it: integers in
the range of 64 bits, members in order, and no deeper than the room. -/
inductive Plain : Nat → Value → Prop where
  | null {room : Nat} : Plain room .null
  | boolean {room : Nat} {value : Bool} : Plain room (.boolean value)
  | integer {room : Nat} {value : Int} :
      Storable value → Plain room (.number (.integer value))
  | text {room : Nat} {value : String} : Plain room (.text value)
  | list {room : Nat} {items : List Value} :
      (∀ item ∈ items, Plain room item) → Plain (room + 1) (.list items)
  | object {room : Nat} {members : List (String × Value)} :
      (∀ member ∈ members, Plain room member.2) →
      Members.Sorted members → Plain (room + 1) (.object members)

/-! ## Texts -/

private theorem hexValue?_hexDigit {digit : Nat} (small : digit < 16) :
    hexValue? (hexDigit digit) = some digit := by
  revert digit
  decide

private theorem writes_escape
    (letter : Char) : Writes (escape letter) letter := by
  unfold escape
  iterate 7
    split
    · next same =>
        subst same
        exact .escape rfl
  split
  · next hidden =>
      have high := hexValue?_hexDigit (show letter.toNat / 16 < 16 by omega)
      have low := hexValue?_hexDigit (show letter.toNat % 16 < 16 by omega)
      have zero : hexValue? '0' = some 0 := rfl
      have unit : unitValue? '0' '0' (hexDigit (letter.toNat / 16))
          (hexDigit (letter.toNat % 16)) = some letter.toNat := by
        simp [unitValue?, zero, high, low]
        omega
      have same := Writes.unit unit
        (by simp [isLeading]; omega) (by simp [isTrailing]; omega)
      rwa [Char.ofNat_toNat] at same
  · next quote slash _ _ _ _ _ shown =>
      exact .plain quote slash (by omega)

theorem quotes_escape (text : List Char) :
    Quotes (text.flatMap escape) text := by
  induction text with
  | nil => exact .nil
  | cons letter text induction =>
      rw [List.flatMap_cons]
      exact .cons (writes_escape letter) induction

/-! ## Parts -/

theorem parts_intercalate {α : Type} {Part : List Char → α → Prop}
    (write : α → List Char) {parts : List α}
    (spelled : ∀ part ∈ parts, Part (write part) part) :
    Parts Part true ([','].intercalate (parts.map write)) parts ∧
      (parts ≠ [] → Parts Part false
        (',' :: [','].intercalate (parts.map write)) parts) := by
  induction parts with
  | nil => exact ⟨.nil .nil, fun some => absurd rfl some⟩
  | cons part rest induction =>
      have head := spelled part List.mem_cons_self
      obtain ⟨-, later⟩ := induction fun other inside =>
        spelled other (List.mem_cons_of_mem _ inside)
      have form : ∃ inside, Parts Part false inside rest ∧
          [','].intercalate ((part :: rest).map write) =
            write part ++ inside := by
        cases rest with
        | nil => exact ⟨[], .nil .nil, by simp [List.intercalate]⟩
        | cons next rest =>
            exact ⟨_, later (List.cons_ne_nil _ _), by simp [List.intercalate]⟩
      obtain ⟨inside, others, same⟩ := form
      rw [same]
      constructor
      · exact .cons (.first .nil) head others
      · intro _
        exact .cons (.later .nil .nil) head others

theorem renderItems_eq (items : List Value) :
    renderItems items = [','].intercalate (items.map Value.render) := by
  induction items with
  | nil => rfl
  | cons item rest induction =>
      cases rest with
      | nil => simp [renderItems, List.intercalate]
      | cons next rest =>
          rw [renderItems, induction]
          · simp [List.intercalate]
          · exact List.cons_ne_nil _ _

/-- The compact text of a member. -/
def renderMember (member : String × Value) : List Char :=
  quote member.1.toList ++ ':' :: member.2.render

theorem renderMembers_eq (members : List (String × Value)) :
    renderMembers members = [','].intercalate (members.map renderMember) := by
  induction members with
  | nil => rfl
  | cons member rest induction =>
      obtain ⟨name, value⟩ := member
      cases rest with
      | nil => simp [renderMembers, renderMember, List.intercalate]
      | cons next rest =>
          rw [renderMembers, induction]
          · simp [renderMember, List.intercalate]
          · exact List.cons_ne_nil _ _

/-! ## Values -/

theorem member_render {Element : List Char → Value → Prop} (name : String)
    {value told : Value} (spelled : Element value.render told) :
    Member Element (renderMember (name, value)) (name, told) := by
  have member := Member.intro (quotes_escape name.toList) .nil .nil spelled
  simpa [renderMember, quote] using member

/-- The compact text of an object spells what its members gather to. -/
theorem spells_object {room : Nat} {members : List (String × Value)}
    (spelled : ∀ member ∈ members, Spells room member.2.render member.2) :
    Spells (room + 1) (Value.object members).render
      (.object (Members.gather [] members)) := by
  apply Or.inr
  rw [Value.render, renderMembers_eq]
  exact .object (parts_intercalate renderMember fun member inside =>
    member_render member.1 (spelled member inside)).1

/-- The compact text of a value spells the value. -/
theorem Plain.spells {room : Nat} {value : Value} (plain : Plain room value) :
    Spells room value.render value := by
  induction plain with
  | null => exact Scalar.null.spells _
  | @boolean _ value =>
      cases value with
      | true => exact Scalar.yes.spells _
      | false => exact Scalar.no.spells _
  | integer storable => exact (Scalar.number (.integer storable)).spells _
  | @text _ value =>
      have scalar := Scalar.text (quotes_escape value.toList)
      rw [String.ofList_toList] at scalar
      exact scalar.spells _
  | @list room items _ induction =>
      apply Or.inr
      rw [Value.render, renderItems_eq]
      exact .list (parts_intercalate Value.render induction).1
  | @object room members _ sorted induction =>
      have gathered : Members.gather [] members = members :=
        Members.gather_of_sorted sorted
      have spelled := spells_object induction
      rwa [gathered] at spelled

/-- What is written is read back. -/
theorem parse_compact {value : Value} (plain : Plain nestingLimit value) :
    parse value.compact = .ok value := by
  apply parse_iff.mpr
  refine ⟨[], value.render, [], ?_, .nil, .nil, plain.spells⟩
  simp [Value.compact]

end Switchboard.Json
