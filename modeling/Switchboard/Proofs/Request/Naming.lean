import Switchboard.Proofs.Text.Numerals
import Switchboard.Request.Id

/-!
# What names an id

An id is named by the integer that it is, or by a text that holds a numeral of
it between blanks.
-/

namespace Switchboard.RequestId

/-- What names an id. -/
inductive Names : Json.Value → RequestId → Prop where
  | integer (id : RequestId) : Names (.number (.integer id.toInt)) id
  | text {content : String} {before numeral behind : List Char}
      {id : RequestId} :
      content.toList = before ++ (numeral ++ behind) →
      Text.Blanks before → Text.Blanks behind →
      Text.Numeral numeral id.toInt →
      Names (.text content) id

theorem ofInt?_toInt (id : RequestId) : ofInt? id.toInt = some id := by
  rw [ofInt?, if_pos ⟨id.minValue_le_toInt, id.toInt_le⟩, Int64.ofInt_toInt]

private theorem toInt_of_ofInt? {value : Int} {id : RequestId}
    (named : ofInt? value = some id) : id.toInt = value := by
  unfold ofInt? at named
  split at named
  · next range =>
      cases named
      have limit : Int64.maxValue.toInt = 2 ^ 63 - 1 := rfl
      apply Int64.toInt_ofInt_of_le range.1
      omega
  · cases named

theorem ofValue?_eq_some_iff {value : Json.Value} {id : RequestId} :
    ofValue? value = some id ↔ Names value id := by
  constructor
  · intro found
    revert found
    fun_cases ofValue? value with
    | case1 value =>
        intro found
        obtain rfl := toInt_of_ofInt? found
        exact .integer id
    | case2 content =>
        intro found
        obtain ⟨before, behind, leading, trailing, split⟩ :=
          Text.exists_trim content.toList
        exact .text split leading trailing
          (Text.signed64?_eq_some_iff.mp found)
    | case3 =>
        intro found
        cases found
  · intro names
    cases names with
    | integer => exact ofInt?_toInt id
    | text split leading trailing numeral =>
        rw [ofValue?, split,
          Text.trim_of_solid leading trailing numeral.solid]
        exact Text.signed64?_eq_some_iff.mpr numeral

theorem names_renderInteger (id : RequestId) :
    Names (.text (String.ofList (Json.renderInteger id.toInt))) id := by
  have split : (String.ofList (Json.renderInteger id.toInt)).toList =
      [] ++ (Json.renderInteger id.toInt ++ []) := by simp
  exact .text split .nil .nil (Text.numeral_renderInteger id.toInt)

end Switchboard.RequestId
