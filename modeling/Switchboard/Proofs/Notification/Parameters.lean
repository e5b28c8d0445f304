import Switchboard.Proofs.Engine.Routing
import Switchboard.Proofs.Json.Canonical

/-!
# The text of parameters

A listener is given the parameters of a notification as a compact text.  If they
hold no binary64 numbers, the text is a canonical form of them: it is read back,
it makes a notification with the same text again, and it tells apart what is
different.
-/

namespace Switchboard.Notification

open Json (Plain Integral Parts Member Spells)

/-- The parameters, with none read as no members. -/
def members (notification : Notification) : Json.Members :=
  notification.params.getD []

/-- Parameters that are read are spelled inside their frame. -/
theorem exists_spelling {raw : String} {notification : Notification}
    (parsed : parse raw = .ok notification) {params : Json.Members}
    (given : notification.params = some params) :
    ∃ written, Spells 126 written (.object params) := by
  obtain ⟨written, ⟨_, _, _, -, -, -, row⟩, -, told⟩ :=
    Frame.tells_of_parse parsed
  rw [given] at told
  obtain ⟨value, last, object⟩ := Option.bind_eq_some_iff.mp told
  obtain ⟨_, spelled⟩ := row.spelled (Json.Members.mem_of_last? last)
  obtain ⟨written, spelled⟩ := spelled.spelled
  cases value with
  | object members =>
      cases object
      exact ⟨written, spelled⟩
  | _ => cases object

/-- The parameters are the object in the last `params` of the frame. -/
theorem params_eq_of_holds {raw : String} {notification : Notification}
    (parsed : parse raw = .ok notification)
    {written : List (String × Json.Value)} (holds : Frame.Holds raw written) :
    notification.params =
      (Json.Members.last? "params" written).bind Json.Value.members? := by
  obtain ⟨members, held, parsed⟩ := Json.bind_eq_ok parsed
  rw [Frame.members_eq_ok_iff.mpr ⟨written, holds, rfl⟩] at held
  cases held
  split at parsed
  · cases parsed
    rw [Json.Members.find?_gather_nil]
  · cases parsed

theorem sorted_params {raw : String} {notification : Notification}
    (parsed : parse raw = .ok notification) {params : Json.Members}
    (given : notification.params = some params) :
    Json.Members.Sorted params := by
  obtain ⟨written, spelled⟩ := exists_spelling parsed given
  rcases spelled with scalar | compound
  · cases scalar
  · cases compound with
    | object row => exact Json.Members.sorted_gather .nil _

theorem plain_members {raw : String} {notification : Notification}
    (parsed : parse raw = .ok notification)
    (integral : Integral (.object notification.members)) :
    Plain 126 (.object notification.members) := by
  unfold members at integral ⊢
  cases given : notification.params with
  | none =>
      apply Plain.object
      · intro member inside
        cases inside
      · exact .nil
  | some params =>
      rw [given] at integral
      obtain ⟨written, spelled⟩ := exists_spelling parsed given
      exact spelled.plain integral

/-! ## Frames -/

/-- Members, each with a comma behind it. -/
def leading : List (String × Json.Value) → String
  | [] => ""
  | (name, value) :: rest =>
      (Json.Value.text name).compact ++ ":" ++ value.compact ++ "," ++
        leading rest

/-- The frame with a name and a text of parameters, behind other members. -/
def frame (others : List (String × Json.Value)) (name params : String) :
    String :=
  "\x7b" ++ leading others ++ "\"method\":" ++
    (Json.Value.text name).compact ++ ",\"params\":" ++ params ++ "\x7d"

private theorem toList_leading (others : List (String × Json.Value))
    {rest : List (String × Json.Value)} (some : rest ≠ []) :
    (leading others).toList ++ Json.renderMembers rest =
      Json.renderMembers (others ++ rest) := by
  induction others with
  | nil => rfl
  | cons member others induction =>
      obtain ⟨name, value⟩ := member
      have more : others ++ rest ≠ [] := by simp [some]
      rw [leading, List.cons_append, Json.renderMembers, ← induction]
      · simp [Json.Value.compact, Json.Value.render]
      · exact more

theorem frame_eq (others : List (String × Json.Value)) (name : String)
    (params : Json.Members) :
    frame others name (Json.Value.object params).compact =
      (Json.Value.object
        (others ++ [("method", .text name), ("params", .object params)])
          ).compact := by
  have labels : Json.quote "method".toList = "\"method\"".toList ∧
      Json.quote "params".toList = "\"params\"".toList := by decide +kernel
  have own : [("method", Json.Value.text name), ("params", .object params)] ≠
      [] := List.cons_ne_nil _ _
  apply String.toList_inj.mp
  simp only [Json.Value.compact, Json.Value.render, ← toList_leading others own,
    Json.renderMembers, String.toList_ofList]
  rw [labels.1, labels.2]
  simp [frame, Json.Value.compact, Json.Value.render]

theorem parse_frame {others : List (String × Json.Value)}
    (plainOthers : ∀ other ∈ others, Plain 126 other.2) (name : String)
    {params : Json.Members} (plain : Plain 126 (.object params)) :
    parse (frame others name (Json.Value.object params).compact) =
      .ok { name := name, params := some params } := by
  rw [frame_eq]
  apply Frame.parse_of_tells
  refine ⟨_, Frame.holds_compact ?_, ?_, ?_⟩
  · intro member inside
    rcases List.mem_append.mp inside with other | own
    · exact plainOthers member other
    · simp only [List.mem_cons, List.not_mem_nil, or_false] at own
      rcases own with rfl | rfl
      · exact .text
      · exact plain
  · rw [Json.Members.last?_append]
    rfl
  · rw [Json.Members.last?_append]
    rfl

/-! ## The canonical form -/

/-- The text of parameters is a canonical form.  It reads back as the parameters
that the frame told, a frame written with it tells the same and has the same
text again, and texts are the same for equal parameters only. -/
theorem params_text_canonical :
    (∀ {raw : String} {notification : Notification},
      parse raw = .ok notification →
      Integral (.object notification.members) →
      Frame.Tells raw notification.name notification.params ∧
        Json.parse notification.paramsText =
          .ok (.object notification.members) ∧
        ∀ {others : List (String × Json.Value)},
          (∀ other ∈ others, Plain 126 other.2) →
          ∃ again,
            parse (frame others notification.name notification.paramsText) =
                .ok again ∧
              again.name = notification.name ∧
              again.members = notification.members ∧
              again.paramsText = notification.paramsText) ∧
    ∀ {raw other : String} {first second : Notification},
      parse raw = .ok first → parse other = .ok second →
      Integral (.object first.members) → Integral (.object second.members) →
      (first.paramsText = second.paramsText ↔
        first.members = second.members) := by
  constructor
  · intro raw notification parsed integral
    have plain := plain_members parsed integral
    refine ⟨Frame.tells_of_parse parsed, ?_, ?_⟩
    · exact Json.parse_compact (plain.widen (Nat.le_succ 126))
    · intro others plainOthers
      exact ⟨_, parse_frame plainOthers notification.name plain, rfl, rfl, rfl⟩
  · intro raw other first second parsed alsoParsed integral alsoIntegral
    have plain := plain_members parsed integral
    have alsoPlain := plain_members alsoParsed alsoIntegral
    constructor
    · intro same
      have equal := Json.compact_inj (plain.widen (Nat.le_succ 126))
        (alsoPlain.widen (Nat.le_succ 126)) same
      exact Json.Value.object.inj equal
    · intro same
      rw [paramsText, paramsText]
      exact congrArg (fun members => (Json.Value.object members).compact) same

/-- Parameters in another order, with blanks, escapes and a member that is
replaced, have the same text. -/
theorem two_spellings_have_one_text :
    let first :=
      "\x7b\"method\":\"m\",\"params\":" ++
        "\x7b\"b\":1,\"a\":\"\\u0041\\n\",\"b\":[-2]\x7d\x7d"
    let second :=
      "\x7b\"params\":\x7b\"a\": \"A\\u000a\" , \"b\":[ -2 ]\x7d," ++
        "\"method\":\"n\"\x7d"
    let text := "\x7b\"a\":\"A\\n\",\"b\":[-2]\x7d"
    ∃ notification other,
      parse first = .ok notification ∧ parse second = .ok other ∧
        notification.paramsText = text ∧ other.paramsText = text ∧
        Integral (.object notification.members) ∧
        Integral (.object other.members) ∧
        notification.members = other.members ∧
        Json.parse text = .ok (.object notification.members) ∧
        ∃ again,
          parse (frame [("jsonrpc", .text "2.0")] notification.name text) =
              .ok again ∧
            again.paramsText = text := by
  intro first second text
  have read : ∀ raw ∈ [first, second],
      ∃ notification ∈ (parse raw).toOption,
        notification.paramsText = text ∧
          Integral (.object notification.members) := by
    decide +kernel
  obtain ⟨notification, found, same, integral⟩ :=
    read first List.mem_cons_self
  obtain ⟨other, alsoFound, alsoSame, alsoIntegral⟩ :=
    read second (List.mem_cons_of_mem _ List.mem_cons_self)
  have parsed := Json.ok_of_toOption found
  have alsoParsed := Json.ok_of_toOption alsoFound
  obtain ⟨canonical, told⟩ := params_text_canonical
  have equal :=
    (told parsed alsoParsed integral alsoIntegral).mp (same.trans alsoSame.symm)
  obtain ⟨-, back, again⟩ := canonical parsed integral
  have plain : ∀ member ∈ [("jsonrpc", Json.Value.text "2.0")],
      Plain 126 member.2 := by
    intro member inside
    rw [List.mem_singleton.mp inside]
    exact .text
  obtain ⟨written, frameParsed, -, -, kept⟩ := again plain
  rw [same] at back frameParsed kept
  exact ⟨notification, other, parsed, alsoParsed, same, alsoSame, integral,
    alsoIntegral, equal, back, written, frameParsed, kept⟩

end Switchboard.Notification
