import Switchboard.Json.Writer
import Switchboard.Text.Quoted

/-!
# JSON values in words

A value told with the kind of each of its parts, for people who look at one.
-/

namespace Switchboard.Json

mutual

def Value.describe : Value → String
  | .null => "Null"
  | .boolean value => "Bool(" ++ toString value ++ ")"
  | .number value => "Number(" ++ String.ofList value.render ++ ")"
  | .text value =>
      "String(" ++ String.ofList (Text.quoted value.toList) ++ ")"
  | .list items => "Array [" ++ ", ".intercalate (describeItems items) ++ "]"
  | .object members =>
      "Object \x7b" ++ ", ".intercalate (describeMembers members) ++ "\x7d"
termination_by structural value => value

def describeItems : List Value → List String
  | [] => []
  | item :: rest => item.describe :: describeItems rest
termination_by structural items => items

def describeMembers : List (String × Value) → List String
  | [] => []
  | (name, value) :: rest =>
      (String.ofList (Text.quoted name.toList) ++ ": " ++ value.describe) ::
        describeMembers rest
termination_by structural members => members

end

end Switchboard.Json
