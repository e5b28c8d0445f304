import Switchboard.Proofs.Json.Records
import Switchboard.Proofs.Notification.Parameters

/-!
# Casting parameters are always read

The parameters of a casting event are read from any object, with every kind of
value in every place: each of them is what its own member stands for, and a
member of another name does nothing.  Reading the object from its compact text
gives the same.
-/

namespace Switchboard

open Json (Blank Stops Plain Integral Spells)
open Json.Members (last?)

namespace DialParams

/-! ## What a member stands for -/

/-- The text that a member stands for, if it is there. -/
inductive Stands : Option Json.Value → Option String → Prop where
  | absent : Stands none none
  | null : Stands (some .null) none
  | text {content : String} : Stands (some (.text content)) (some content)
  | boolean {value : Bool} :
      Stands (some (.boolean value)) (some (Json.Value.boolean value).compact)
  | number {value : Json.Number} :
      Stands (some (.number value)) (some (Json.Value.number value).compact)
  | list {items : List Json.Value} :
      Stands (some (.list items)) (some (Json.Value.list items).compact)
  | object {members : Json.Members} :
      Stands (some (.object members))
        (some (Json.Value.object members).compact)

theorem stands_fieldText (found : Option Json.Value) :
    Stands found (found.bind fieldText) := by
  cases found with
  | none => exact .absent
  | some value => cases value <;> constructor

/-- Each parameter is what the last member of its name stands for. -/
structure Fill (members : Json.Members) (params : DialParams) : Prop where
  appName : ∃ text, Stands (last? "applicationName" members) text ∧
    params.appName = text.getD ""
  appId : ∃ text, Stands (last? "applicationId" members) text ∧
    params.appId = text.getD ""
  payload : Stands (last? "strPayLoad" members) params.payload
  query : Stands (last? "strQuery" members) params.query
  addDataUrl : Stands (last? "strAddDataUrl" members) params.addDataUrl

/-- A member sets the parameter of its name and no other one. -/
theorem setMember_eq (params : DialParams) (name : String)
    (value : Json.Value) :
    params.setMember name value =
      { appName :=
          if name = "applicationName" then (fieldText value).getD ""
          else params.appName
        appId :=
          if name = "applicationId" then (fieldText value).getD ""
          else params.appId
        payload :=
          if name = "strPayLoad" then fieldText value else params.payload
        query := if name = "strQuery" then fieldText value else params.query
        addDataUrl :=
          if name = "strAddDataUrl" then fieldText value
          else params.addDataUrl } := by
  cases params
  unfold setMember
  grind

private theorem field_ofMembers
    {β : Type} (field : DialParams → β) (name : String)
    (told : Option String → β) (start : field {} = told none)
    (sets : ∀ params other value,
      field (setMember params other value) =
        if other = name then told (fieldText value) else field params)
    (members : Json.Members) :
    field (ofMembers members) = told ((last? name members).bind fieldText) := by
  induction members using List.reverseRecOn with
  | nil => exact start
  | append_singleton members member induction =>
      obtain ⟨other, value⟩ := member
      have step : ofMembers (members ++ [(other, value)]) =
          (ofMembers members).setMember other value := by
        simp [ofMembers]
      rw [step, sets, Json.Members.last?_append, last?]
      by_cases same : other = name
      · simp [same, last?]
      · simpa [same, last?] using induction

theorem fill_ofMembers (members : Json.Members) :
    Fill members (ofMembers members) := by
  have appName := field_ofMembers DialParams.appName "applicationName"
    (·.getD "") rfl (by simp [setMember_eq]) members
  have appId := field_ofMembers DialParams.appId "applicationId"
    (·.getD "") rfl (by simp [setMember_eq]) members
  have payload := field_ofMembers DialParams.payload "strPayLoad" id
    rfl (by simp [setMember_eq]) members
  have query := field_ofMembers DialParams.query "strQuery" id
    rfl (by simp [setMember_eq]) members
  have addDataUrl := field_ofMembers DialParams.addDataUrl "strAddDataUrl" id
    rfl (by simp [setMember_eq]) members
  constructor
  · exact ⟨_, stands_fieldText _, appName⟩
  · exact ⟨_, stands_fieldText _, appId⟩
  · exact payload ▸ stands_fieldText _
  · exact query ▸ stands_fieldText _
  · exact addDataUrl ▸ stands_fieldText _

/-! ## Reading from a text -/

theorem readInner_complete {written : List Char} {value : Json.Value}
    (spelled : Spells 126 written value) {blanks rest : List Char}
    (blank : Blank blanks) (stops : Stops rest) :
    Json.readInner (blanks ++ (written ++ rest)) = .ok (value, rest) := by
  have enough : 2 * (written ++ rest).length <
      2 * (blanks ++ (written ++ rest)).length + 1 + 1 := by
    simp only [List.length_append]
    omega
  rw [Json.readInner, Json.callBound, Json.readValue_blank blank]
  exact Json.accepts_all 126 spelled stops enough

private theorem setMember_of_not_mem
    {name : String} (absent : name ∉ memberNames)
    (params : DialParams) (value : Json.Value) :
    params.setMember name value = params := by
  simp only [memberNames, List.mem_cons, List.not_mem_nil, or_false,
    not_or] at absent
  simp [setMember_eq, absent]

private theorem affects_of_plain {value : Json.Value} (plain : Plain 126 value)
    (name : String) :
    Json.Affects shape.fields
      (fun params member => params.setMember member.1 member.2) name
      value.render value := by
  by_cases known : name ∈ memberNames
  · simp only [memberNames, List.mem_cons, List.not_mem_nil, or_false]
      at known
    rcases known with rfl | rfl | rfl | rfl | rfl
    all_goals
      refine .known _ rfl ?_
      intro blanks rest blank stops
      have inner := readInner_complete plain.spells blank stops
      simp [inner, bind, Except.bind, pure, Except.pure]
  · apply Json.Affects.unknown
    · apply List.find?_eq_none.mpr
      intro field inside
      obtain ⟨other, member, rfl⟩ := List.mem_map.mp inside
      simp only [decide_eq_true_eq]
      rintro rfl
      exact known member
    · exact plain.passes
    · intro params
      exact params.setMember_of_not_mem known value

/-- The object is read from its text as it is read itself. -/
theorem parse_compact {members : List (String × Json.Value)}
    (plain : ∀ member ∈ members, Plain 126 member.2)
    (distinct : (members.map Prod.fst).Nodup) :
    parse (Json.Value.object members).compact = .ok (ofMembers members) :=
  Json.Shape.parse_compact
    (fun member inside => affects_of_plain (plain member inside) member.1)
    distinct

end DialParams

namespace Notification

/-- Casting parameters are there just when a notification has parameters, each
from its own last member; the compact text gives the same when its numbers are
integers, and the listener of a casting event is called with them. -/
theorem casting_parameters_are_read :
    (∀ notification : Notification,
      (notification.dialParams.isSome ↔ notification.params.isSome) ∧
        ∀ {members params}, notification.params = some members →
          notification.dialParams = some params →
            DialParams.Fill members params ∧
              (Plain Json.nestingLimit (.object members) →
                DialParams.parse notification.paramsText = .ok params)) ∧
      ∀ {raw notification}, parse raw = .ok notification →
        ∀ {written}, Frame.Holds raw written →
          (notification.dialParams.isSome ↔
            ∃ members, last? "params" written = some (.object members)) ∧
          ∀ {members}, last? "params" written = some (.object members) →
            Json.Members.Sorted members ∧
              ∃ params, notification.dialParams = some params ∧
                DialParams.Fill members params ∧
                (Integral (.object members) →
                  DialParams.parse notification.paramsText = .ok params) ∧
                ∀ {kind}, Category.ofName notification.name = .dial kind →
                  ∀ (hub : Hub) (now : Instant),
                    hub.dispatch now raw =
                      hub.deliver now .dial notification.name
                        (.dial kind params) := by
  have agree : ∀ {notification : Notification} {members : Json.Members},
      notification.params = some members →
      Plain Json.nestingLimit (.object members) →
        DialParams.parse notification.paramsText =
          .ok (DialParams.ofMembers members) := by
    intro notification members given plain
    rw [paramsText, given]
    cases plain with
    | object plain sorted => exact DialParams.parse_compact plain sorted.nodup
  constructor
  · intro notification
    constructor
    · rw [dialParams_eq, Option.isSome_map]
    · intro members params given told
      rw [dialParams_eq, given] at told
      cases told
      exact ⟨DialParams.fill_ofMembers members, agree given⟩
  · intro raw notification parsed written holds
    have same := params_eq_of_holds parsed holds
    constructor
    · rw [dialParams_eq, Option.isSome_map, same]
      cases last? "params" written with
      | none => simp
      | some value => cases value <;> simp [Json.Value.members?]
    · intro members object
      have given : notification.params = some members := by
        rw [same, object]
        rfl
      have told : notification.dialParams =
          some (DialParams.ofMembers members) := by
        rw [dialParams_eq, given]
        rfl
      refine ⟨sorted_params parsed given, _, told,
        DialParams.fill_ofMembers members, ?_, ?_⟩
      · intro integral
        have held : notification.members = members := by
          rw [Notification.members, given]
          rfl
        have plain := plain_members parsed (held ▸ integral)
        rw [held] at plain
        exact agree given (plain.widen (Nat.le_succ 126))
      · intro kind casting hub now
        simp only [Hub.dispatch, parsed, casting, told]

/-- A nested value, a member given twice, a `null` and an unknown member. -/
theorem nested_parameters_are_read :
    let raw :=
      "\x7b\"method\":\"Xcast.1.onApplicationLaunchRequest\",\"params\":" ++
        "\x7b\"applicationId\":7," ++
        "\"applicationName\":[\"a\",\x7b\"b\":-1\x7d]," ++
        "\"strPayLoad\":null,\"strQuery\":\"\",\"more\":[[]]," ++
        "\"applicationId\":true\x7d\x7d"
    let params : DialParams :=
      { appName := "[\"a\",\x7b\"b\":-1\x7d]"
        appId := "true"
        query := some "" }
    ∃ notification,
      parse raw = .ok notification ∧ notification.dialParams = some params ∧
        DialParams.Fill notification.members params ∧
        DialParams.parse notification.paramsText = .ok params ∧
        ∀ (hub : Hub) (now : Instant),
          hub.dispatch now raw =
            hub.deliver now .dial notification.name (.dial .launch params) := by
  intro raw params
  have read : ∃ notification ∈ (parse raw).toOption,
      notification.dialParams = some params ∧
        Category.ofName notification.name = .dial .launch ∧
        Integral (.object notification.members) := by
    decide +kernel
  obtain ⟨notification, found, told, casting, integral⟩ := read
  have parsed := Json.ok_of_toOption found
  obtain ⟨written, holds, -⟩ := Frame.tells_of_parse parsed
  obtain ⟨there, rest⟩ := casting_parameters_are_read.2 parsed holds
  obtain ⟨members, object⟩ := there.mp (by rw [told]; rfl)
  obtain ⟨-, read, same, fill, agree, dispatched⟩ := rest object
  obtain rfl : params = read := Option.some.inj (told.symm.trans same)
  obtain rfl : notification.members = members := by
    rw [Notification.members, params_eq_of_holds parsed holds, object]
    rfl
  exact ⟨notification, parsed, told, fill, agree integral,
    dispatched casting⟩

end Notification

end Switchboard
