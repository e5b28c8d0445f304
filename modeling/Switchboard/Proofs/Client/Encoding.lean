import Switchboard.Frame
import Switchboard.Proofs.Json.Rendering
import Switchboard.Proofs.Request.Naming
import Switchboard.Request.Basic

/-!
# Requests are read back

The frame of a request is read as one object with the members of the request
and no others, and it is told apart as a reply to that request.
-/

namespace Switchboard

open Json (Plain storable_iff)

namespace Request

/-- The members of a request, in the order of their names. -/
def members (request : Request) : List (String × Json.Value) :=
  [("id", .number (.integer request.id.toInt)), ("jsonrpc", .text "2.0"),
    ("method", .text request.method)] ++
      (request.params.map fun params => ("params", params)).toList

theorem toValue_eq (request : Request) :
    request.toValue = .object request.members := by
  obtain ⟨id, method, params⟩ := request
  cases params <;> rfl

private theorem plain_toValue {request : Request}
    (plain : ∀ params ∈ request.params, Plain 126 params) :
    Plain Json.nestingLimit request.toValue := by
  rw [toValue_eq]
  obtain ⟨id, method, params⟩ := request
  apply Plain.object
  · intro member inside
    rcases List.mem_append.mp inside with fixed | given
    · simp only [List.mem_cons, List.not_mem_nil, or_false] at fixed
      rcases fixed with rfl | rfl | rfl
      · exact .integer (Json.storable_toInt id)
      · exact .text
      · exact .text
    · obtain ⟨value, chosen, rfl⟩ :=
        Option.map_eq_some_iff.mp (Option.mem_toList.mp given)
      exact plain value chosen
  · cases params with
    | none =>
        show ["id", "jsonrpc", "method"].Pairwise (· < ·)
        decide
    | some value =>
        show ["id", "jsonrpc", "method", "params"].Pairwise (· < ·)
        decide

/-- The frame of a request is read back as its members. -/
theorem parse_encode {request : Request}
    (plain : ∀ params ∈ request.params, Plain 126 params) :
    Json.parse request.encode = .ok (.object request.members) := by
  rw [← toValue_eq]
  exact Json.parse_compact (plain_toValue plain)

theorem read_encode {request : Request}
    (plain : ∀ params ∈ request.params, Plain 126 params) :
    Frame.read request.encode = .ok (.reply request.id) := by
  have found : Json.Members.find? "id" request.members =
      some (.number (.integer request.id.toInt)) := rfl
  have named : RequestId.ofValue? (.number (.integer request.id.toInt)) =
      some request.id := RequestId.ofInt?_toInt request.id
  simp [Frame.read, Frame.members, parse_encode plain, bind, Except.bind,
    found, named]

/-- The parameters of a request for an event, in the order of their names. -/
def eventParams (event : String) (eventId : RequestId) :
    List (String × Json.Value) :=
  [("event", .text event),
    ("id", .text (String.ofList (Json.renderInteger eventId.toInt)))]

private theorem params_subscription (interest : Interest) (id : RequestId)
    (callsign event : String) (eventId : RequestId) :
    (subscription interest id callsign event eventId).params =
      some (.object (eventParams event eventId)) := rfl

private theorem plain_eventParams (event : String) (eventId : RequestId) :
    Plain 126 (.object (eventParams event eventId)) := by
  apply Plain.object
  · intro member inside
    simp only [eventParams, List.mem_cons, List.not_mem_nil, or_false]
      at inside
    rcases inside with rfl | rfl
    · exact .text
    · exact .text
  · show ["event", "id"].Pairwise (· < ·)
    decide

/-- The frame of a request is read back as one object with the members of the
request and no others, and is routed by its id; a subscription gives back the
name of the service, the event and the event's id. -/
theorem encoded_requests_are_read_back :
    (∀ request : Request,
      (∀ params ∈ request.params, Plain 126 params) →
        Json.parse request.encode = .ok (.object
            ([("id", .number (.integer request.id.toInt)),
              ("jsonrpc", .text "2.0"), ("method", .text request.method)] ++
                (request.params.map fun params =>
                  ("params", params)).toList)) ∧
          Frame.read request.encode = .ok (.reply request.id)) ∧
      ∀ (interest : Interest) (id : RequestId) (callsign event : String)
          (eventId : RequestId),
        ∃ (members params : Json.Members) (named : Json.Value),
          let frame := (subscription interest id callsign event eventId).encode
          Json.parse frame = .ok (.object members) ∧
            Frame.read frame = .ok (.reply id) ∧
            members.find? "method" =
              some (.text (callsign ++
                (match interest with
                | .register => "register"
                | .unregister => "unregister"))) ∧
            members.find? "params" = some (.object params) ∧
            params.find? "event" = some (.text event) ∧
            params.find? "id" = some named ∧
            RequestId.ofValue? named = some eventId := by
  constructor
  · intro request plain
    exact ⟨parse_encode plain, read_encode plain⟩
  · intro interest id callsign event eventId
    have plain : ∀ params ∈
        (subscription interest id callsign event eventId).params,
          Plain 126 params := by
      intro params chosen
      rw [params_subscription] at chosen
      cases chosen
      exact plain_eventParams event eventId
    have named := RequestId.names_renderInteger eventId
    refine ⟨_, eventParams event eventId, _, parse_encode plain,
      read_encode plain, ?_, rfl, rfl, rfl,
      RequestId.ofValue?_eq_some_iff.mpr named⟩
    cases interest <;> rfl

/-- A request with nested parameters, a quotation mark and the greatest word
of 64 bits. -/
theorem nested_request_is_read_back :
    let params : Json.Value :=
      .list [.object [("a\"", .number (.integer 18446744073709551615)),
        ("b", .list [.null, .number (.integer (-9223372036854775808))])]]
    let request : Request := { id := -7, method := "ü.run", params := params }
    (∀ params ∈ request.params, Plain 126 params) ∧
      Json.parse request.encode = .ok (.object
        [("id", .number (.integer (-7))), ("jsonrpc", .text "2.0"),
          ("method", .text "ü.run"), ("params", params)]) ∧
      Frame.read request.encode = .ok (.reply (-7)) := by
  intro params request
  have plain : ∀ params ∈ request.params, Plain 126 params := by
    intro given chosen
    cases chosen
    refine .list fun item inside => ?_
    obtain rfl := List.mem_singleton.mp inside
    have sorted : ["a\"", "b"].Pairwise (· < ·) := by decide
    refine .object (fun member inside => ?_) sorted
    simp only [List.mem_cons, List.not_mem_nil, or_false] at inside
    rcases inside with rfl | rfl
    · exact .integer (storable_iff.mpr (by decide))
    · refine .list fun item inside => ?_
      simp only [List.mem_cons, List.not_mem_nil, or_false] at inside
      rcases inside with rfl | rfl
      · exact .null
      · exact .integer (storable_iff.mpr (by decide))
  exact ⟨plain, encoded_requests_are_read_back.1 request plain⟩

end Request

end Switchboard
