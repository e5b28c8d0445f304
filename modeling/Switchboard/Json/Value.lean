/-!
# JSON values

Numbers keep the distinction between integers and binary64 values.  The
members of an object stand in the order of their names, each name once;
`Members.insert` keeps that order.
-/

namespace Switchboard.Json

/-- A number is an integer, or a binary64 value when its text has a fraction,
an exponent, or too many digits for a 64-bit integer. -/
inductive Number where
  | integer (value : Int)
  | float (value : Float)
  deriving Repr, DecidableEq

inductive Value where
  | null
  | boolean (value : Bool)
  | number (value : Number)
  | text (value : String)
  | list (items : List Value)
  | object (members : List (String × Value))
  deriving Repr, Inhabited

abbrev Members := List (String × Value)

namespace Members

/-- Adds a member at the place its name sorts to.  A member of that name is
replaced. -/
def insert (name : String) (value : Value) : Members → Members
  | [] => [(name, value)]
  | (other, held) :: rest =>
      if name = other then
        (name, value) :: rest
      else if name < other then
        (name, value) :: (other, held) :: rest
      else
        (other, held) :: insert name value rest

/-- The value of the member of that name. -/
def find? (name : String) : Members → Option Value
  | [] => none
  | (other, held) :: rest =>
      if name = other then some held else find? name rest

theorem find?_insert_self (name : String) (value : Value)
    (members : Members) :
    find? name (insert name value members) = some value := by
  induction members with
  | nil => simp [insert, find?]
  | cons member rest induction =>
      obtain ⟨other, held⟩ := member
      by_cases same : name = other
      · simp [insert, find?, same]
      · by_cases before : name < other
        · simp [insert, find?, same, before]
        · simp [insert, find?, same, before, induction]

theorem find?_insert_of_ne {name other : String} (different : other ≠ name)
    (value : Value) (members : Members) :
    find? other (insert name value members) = find? other members := by
  induction members with
  | nil => simp [insert, find?, different]
  | cons member rest induction =>
      obtain ⟨next, held⟩ := member
      by_cases same : name = next
      · subst same
        simp [insert, find?, different]
      · by_cases before : name < next
        · simp [insert, find?, same, before, different]
        · simp [insert, find?, same, before, induction]

end Members

def Value.members? : Value → Option Members
  | .object members => some members
  | _ => none

end Switchboard.Json
