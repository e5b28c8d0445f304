import Switchboard.Proofs.Client.Encoding
import Switchboard.Proofs.Client.Replies
import Switchboard.Proofs.Engine.Routing

/-!
# Results of calls

The value that a service writes into its reply crosses a frame, the router, the
record of the request, the poll that ends the wait, and a second reader.  It
comes out as it went in, for nothing on that way looks at the frame but for its
id, and nothing that happens later takes a reply back.
-/

namespace Switchboard

open Json (Plain)

/-! ## Values in frames -/

/-- The last `result` of the frame has this value. -/
def Frame.Carries (raw : String) (value : Json.Value) : Prop :=
  ∃ written, Holds raw written ∧
    Json.Members.last? "result" written = some value

theorem replyValue_eq_ok_iff {raw : String} {value : Json.Value} :
    replyValue raw = .ok value ↔ Frame.Carries raw value := by
  have carries : Frame.Carries raw value ↔
      ∃ members, Json.parse raw = .ok (.object members) ∧
        Json.Members.find? "result" members = some value := by
    simp only [Json.parse_iff, Frame.document_object_iff]
    constructor
    · rintro ⟨written, holds, last⟩
      refine ⟨_, ⟨written, holds, rfl⟩, ?_⟩
      rw [Json.Members.find?_gather_nil, last]
    · rintro ⟨_, ⟨written, holds, rfl⟩, found⟩
      rw [Json.Members.find?_gather_nil] at found
      exact ⟨written, holds, found⟩
  rw [carries]
  cases read : Json.parse raw with
  | error complaint => simp [replyValue, read]
  | ok document =>
      cases document with
      | object members =>
          cases found : Json.Members.find? "result" members with
          | none =>
              cases told : Json.Members.find? "error" members <;>
                simp [replyValue, read, Json.Value.members?, found, told]
          | some result =>
              simp [replyValue, read, Json.Value.members?, found]
      | _ => simp [replyValue, read, Json.Value.members?, Json.Members.find?]

namespace Client

theorem result_completed_iff {raw : String} {value : Json.Value} :
    result (.completed raw) = .ok (some value) ↔ Frame.Carries raw value := by
  rw [← replyValue_eq_ok_iff]
  cases read : replyValue raw <;> simp [result, read]

theorem malformed_completed_iff {raw : String} :
    (∃ malformed,
        result (.completed raw) = .error (.malformedReply malformed)) ↔
      ¬∃ value, Frame.Carries raw value := by
  simp only [← replyValue_eq_ok_iff]
  cases read : replyValue raw <;> simp [result, read]

theorem result_eq_none_iff {outcome : Outcome} :
    result outcome = .ok none ↔
      outcome = .timedOut ∨ outcome = .cancelled ∨ outcome = .abandoned := by
  cases outcome with
  | completed raw => cases read : replyValue raw <;> simp [result, read]
  | _ => simp [result]

end Client

/-! ## Replies as they are written -/

namespace Reply

/-- The members of a reply, in the order of their names. -/
def members (named : Json.Value) (error : Option Json.Value)
    (result : Json.Value) : List (String × Json.Value) :=
  (error.map fun error => ("error", error)).toList ++
    [("id", named), ("jsonrpc", .text "2.0"), ("result", result)]

/-- The frame of a reply. -/
def frame (named : Json.Value) (error : Option Json.Value)
    (result : Json.Value) : String :=
  (Json.Value.object (members named error result)).compact

variable {named result : Json.Value} {id : RequestId}
  {error : Option Json.Value}

theorem holds_frame (names : RequestId.Names named id)
    (plainError : ∀ beside ∈ error, Plain 126 beside)
    (plain : Plain 126 result) :
    Frame.Holds (frame named error result) (members named error result) := by
  apply Frame.holds_compact
  intro member inside
  rcases List.mem_append.mp inside with given | fixed
  · obtain ⟨beside, chosen, rfl⟩ :=
      Option.map_eq_some_iff.mp (Option.mem_toList.mp given)
    exact plainError beside chosen
  · simp only [List.mem_cons, List.not_mem_nil, or_false] at fixed
    rcases fixed with rfl | rfl | rfl
    · cases names with
      | integer => exact .integer (Json.storable_toInt id)
      | text => exact .text
    · exact .text
    · exact plain

theorem isReply_frame (names : RequestId.Names named id)
    (plainError : ∀ beside ∈ error, Plain 126 beside)
    (plain : Plain 126 result) :
    Frame.IsReply (frame named error result) id := by
  refine ⟨_, named, holds_frame names plainError plain, ?_, names⟩
  rw [members, Json.Members.last?_append]
  rfl

theorem carries_frame (names : RequestId.Names named id)
    (plainError : ∀ beside ∈ error, Plain 126 beside)
    (plain : Plain 126 result) :
    Frame.Carries (frame named error result) result := by
  refine ⟨_, holds_frame names plainError plain, ?_⟩
  rw [members, Json.Members.last?_append]
  rfl

end Reply

/-! ## Delivery -/

theorem Correlator.complete_of_pending {correlator : Correlator}
    (sound : correlator.Sound) {id : RequestId} {record : Record}
    (found : Records.find? id correlator.records = some record)
    (pending : record.state = .pending) (now : Instant) (raw : String) :
    (correlator.complete now id raw).answer = true ∧
      (correlator.complete now id raw).after.cells.settlement? record.cell =
        some (.reply raw) := by
  have opened := sound.open_of_found found
  have settled :=
    sound.settlement?_settle_of_pending found pending (.reply raw)
  constructor
  · simp [complete, opened, found, Record.fulfil, pending]
  · simpa [complete, opened, found, Record.fulfil, pending, store] using settled

namespace Errand

/-- An errand that has a frame, whether its wait has ended yet or not. -/
inductive Got (raw : String) (cells : Cells) (errand : Errand) : Prop where
  | underWay (call : Call) (cell : CellId) :
      errand.phase.call? = some call →
      call.handle.source = .waiting cell →
      cells.settlement? cell = some (.reply raw) →
      Got raw cells errand
  | ended :
      errand.phase = .ended (.completed raw) →
      Got raw cells errand

variable {errand : Errand} {raw : String} {correlator : Correlator}

/-- Nothing takes a frame back. -/
theorem Got.grow {before after : Cells} (got : errand.Got raw before)
    (grows : before.Grows after) : errand.Got raw after := by
  cases got with
  | underWay call cell phase waits settled =>
      exact .underWay call cell phase waits (grows.settled settled)
  | ended phase => exact .ended phase

theorem Got.answer_proceed (got : errand.Got raw correlator.cells)
    (now rung : Instant) :
    (errand.proceed now rung correlator).answer =
      match errand.phase with
      | .sending call => .waiting call (now + call.timeout)
      | _ => .ended (.completed raw) := by
  cases got with
  | underWay call cell underWay waits settled =>
      cases phase : errand.phase with
      | sending held =>
          simp only [proceed, phase]
          rfl
      | waiting held deadline =>
          rw [phase] at underWay
          cases underWay
          have seen : correlator.view cell = .settled (.reply raw) := by
            rw [Correlator.view, settled]
          have polled : (correlator.pollHandle call.handle).answer.1 =
              some (.completed raw) := by
            simp only [Correlator.pollHandle, waits, seen, Correlator.collect]
            split <;> rfl
          simp only [proceed, phase, Step.answer_map,
            Correlator.pollHandleBefore, polled]
      | _ =>
          rw [phase] at underWay
          cases underWay
  | ended phase => simp only [proceed, phase]

theorem Got.proceed (got : errand.Got raw correlator.cells)
    (now rung : Instant) {after : Cells}
    (grows : correlator.cells.Grows after) :
    Got raw after
      { errand with
        phase := (errand.proceed now rung correlator).answer } := by
  rw [got.answer_proceed]
  split
  · next call sending =>
      cases got with
      | underWay held cell underWay waits settled =>
          rw [sending] at underWay
          cases underWay
          exact .underWay call cell rfl waits (grows.settled settled)
      | ended phase =>
          rw [sending] at phase
          cases phase
  · exact .ended rfl

end Errand

namespace Exchange

/-- What a call returns once its wait has ended. -/
def result? (exchange : Exchange) (number : Nat) :
    Option (Except CorrelationError (Option Json.Value)) :=
  (exchange.outcome? number).map Client.result

/-- A call is under way whose record is pending. -/
def Awaits (exchange : Exchange) (number : Nat) (id : RequestId) : Prop :=
  ∃ errand call record,
    exchange.errands[number]? = some errand ∧
      errand.phase.call? = some call ∧
      Records.find? id exchange.session.correlator.records = some record ∧
      record.state = .pending ∧ call.handle.source = .waiting record.cell

def Got (exchange : Exchange) (number : Nat) (raw : String) : Prop :=
  ∃ errand, exchange.errands[number]? = some errand ∧
    errand.Got raw exchange.session.correlator.cells

variable {exchange : Exchange} {number : Nat} {id : RequestId} {raw : String}

theorem Awaits.receive (sound : exchange.Sound)
    (awaits : exchange.Awaits number id) (reply : Frame.IsReply raw id) :
    (exchange.hub.route exchange.session.now raw).answer = .reply ∧
      (exchange.act (.receive raw)).Got number raw := by
  obtain ⟨errand, call, record, present, underWay, found, pending, waits⟩ :=
    awaits
  have routed := Hub.route_of_reply reply exchange.hub exchange.session.now
  obtain ⟨taken, settled⟩ := Correlator.complete_of_pending
    sound.session.correlator found pending exchange.session.now raw
  constructor
  · rw [routed]
    simp [Hub.onCorrelator, hub, taken]
  · refine ⟨errand, present, .underWay call record.cell underWay waits ?_⟩
    simp only [act, setCorrelator, routed]
    exact settled

theorem Got.act (sound : exchange.Sound) (got : exchange.Got number raw)
    (action : Action) : (exchange.act action).Got number raw := by
  obtain ⟨errand, present, got⟩ := got
  have grows := (act_carries sound action).grows
  by_cases own : action = .proceed number
  · subst own
    exact ⟨_, errand_proceed present, got.proceed _ _ grows⟩
  · exact ⟨errand, errand_act_of_ne present own, got.grow grows⟩

theorem Got.run (sound : exchange.Sound) (got : exchange.Got number raw)
    (actions : List Action) : (exchange.run actions).Got number raw := by
  induction actions generalizing exchange with
  | nil => exact got
  | cons action rest induction =>
      exact induction (act_sound sound action) (got.act sound action)

theorem Got.outcome? (got : exchange.Got number raw) :
    exchange.outcome? number = none ∨
      exchange.outcome? number = some (.completed raw) := by
  obtain ⟨errand, present, got⟩ := got
  simp only [Exchange.outcome?, present, Option.bind_some]
  cases got with
  | underWay call cell underWay waits settled =>
      cases phase : errand.phase <;> rw [phase] at underWay <;>
        first | exact .inl rfl | cases underWay
  | ended phase =>
      rw [phase]
      exact .inr rfl

private theorem Got.outcome?_proceed (sound : exchange.Sound)
    (got : exchange.Got number raw) :
    (exchange.run [.proceed number, .proceed number]).outcome? number =
      some (.completed raw) := by
  obtain ⟨errand, present, got⟩ := got
  have grows := (act_carries sound (.proceed number)).grows
  have answer : (exchange.step errand).answer = _ := got.answer_proceed _ _
  let moved : Errand :=
    { errand with phase := (exchange.step errand).answer }
  have movedGot : moved.Got raw
      (exchange.act (.proceed number)).session.correlator.cells :=
    got.proceed _ _ grows
  have movedAnswer :
      ((exchange.act (.proceed number)).step moved).answer = _ :=
    movedGot.answer_proceed _ _
  have last := errand_proceed (errand_proceed present)
  simp only [Exchange.run, Exchange.outcome?, last, Option.bind_some]
  -- The first step has left the phase of sending.
  rw [movedAnswer]
  simp only [moved, answer]
  cases errand.phase <;> rfl

private theorem awaits_of_tracked {errand : Errand}
    (present : exchange.errands[number]? = some errand)
    (underWay : errand.phase.call?.isSome = true)
    (tracked : Errand.Tracked id exchange.session.correlator []
      (some errand)) : exchange.Awaits number id := by
  cases tracked with
  | ahead drafted quiet opened absent =>
      rw [drafted errand rfl] at underWay
      cases underWay
  | afoot known record phase found tells =>
      exact ⟨errand, _, record, present, phase, found, tells, rfl⟩
  | ended known phase =>
      rw [phase] at underWay
      cases underWay

/-- Results come back as they were written: the first reply to a call that
awaits one is what the call ends with, and the call returns the last result of
that frame.  Nothing is returned just when no reply came. -/
theorem results_come_back :
    (∀ {named result : Json.Value} {id : RequestId}
      {error : Option Json.Value},
      RequestId.Names named id → (∀ beside ∈ error, Plain 126 beside) →
      Plain 126 result →
        Frame.IsReply (Reply.frame named error result) id ∧
          Frame.Carries (Reply.frame named error result) result) ∧
      (∀ (defaultTimeout maxRecordAge : Nat) (first : RequestId)
        (dispatcher : Dispatcher) (actions : List Action),
        let begun := start defaultTimeout maxRecordAge first dispatcher
        let done := begun.run actions
        (∀ number errand, done.errands[number]? = some errand →
          errand.phase.call?.isSome = true →
          done.ids.length ≤ 2 ^ 64 → errand.timeout ≠ 0 →
          Private errand.request.id actions →
          begun.Undisturbed number actions →
          begun.arrivals number actions = [] →
            done.Awaits number errand.request.id) ∧
          ∀ number id raw, done.Awaits number id → Frame.IsReply raw id →
            (done.hub.route done.session.now raw).answer = .reply ∧
              ∀ later : List Action,
                let after := (done.act (.receive raw)).run later
                let last := after.run [.proceed number, .proceed number]
                (after.outcome? number = none ∨
                    after.outcome? number = some (.completed raw)) ∧
                  last.outcome? number = some (.completed raw) ∧
                  ∀ value, Frame.Carries raw value →
                    last.result? number = some (.ok (some value))) ∧
      ∀ (exchange : Exchange) (number : Nat),
        (∀ raw, exchange.outcome? number = some (.completed raw) →
          (∀ value, exchange.result? number = some (.ok (some value)) ↔
            Frame.Carries raw value) ∧
          ((∃ malformed, exchange.result? number =
              some (.error (.malformedReply malformed))) ↔
            ¬∃ value, Frame.Carries raw value)) ∧
        (exchange.result? number = some (.ok none) ↔
          exchange.outcome? number = some .timedOut ∨
            exchange.outcome? number = some .cancelled ∨
            exchange.outcome? number = some .abandoned) := by
  refine ⟨?_, ?_, ?_⟩
  · intro named result id error names plainError plain
    exact ⟨Reply.isReply_frame names plainError plain,
      Reply.carries_frame names plainError plain⟩
  · intro defaultTimeout maxRecordAge first dispatcher actions begun done
    have sound : done.Sound := run_sound (sound_start ..) actions
    constructor
    · intro number errand present underWay few nonzero foreign undisturbed
        quiet
      have tracked :=
        tracked_of_start few present nonzero foreign undisturbed
      have none : (start defaultTimeout maxRecordAge first
          dispatcher).arrivals number actions = [] := quiet
      rw [none] at tracked
      exact awaits_of_tracked present underWay tracked
    · intro number id raw awaits reply
      obtain ⟨taken, got⟩ := awaits.receive sound reply
      refine ⟨taken, ?_⟩
      intro later after last
      have received : (done.act (.receive raw)).Sound := act_sound sound _
      have gotAfter : after.Got number raw := got.run received later
      have ends : last.outcome? number = some (.completed raw) :=
        gotAfter.outcome?_proceed (run_sound received later)
      refine ⟨gotAfter.outcome?, ends, ?_⟩
      intro value carries
      rw [result?, ends, Option.map_some,
        Client.result_completed_iff.mpr carries]
  · intro exchange number
    constructor
    · intro raw ended
      simp only [result?, ended, Option.map_some, Option.some.injEq]
      exact ⟨fun value => Client.result_completed_iff,
        Client.malformed_completed_iff⟩
    · rw [result?, Option.map_eq_some_iff]
      constructor
      · rintro ⟨outcome, ended, nothing⟩
        rw [ended]
        simpa using Client.result_eq_none_iff.mp nothing
      · rintro (ended | ended | ended)
        all_goals exact ⟨_, ended, rfl⟩

/-- A reply whose result is `null` and whose id is a text, with an error beside
the result, comes while the request is being sent, and everything is dropped
before the call goes on. -/
theorem null_comes_back :
    let done := (start 5000 300000 1001 {}).run
      [.draft (.call "m" none) 100, .draw 0, .proceed 0]
    let named : Json.Value := .text "1001"
    let raw := Reply.frame named (some (.list [.boolean true])) .null
    let after := (done.act (.receive raw)).run
      [.other .dropCompleted, .other .shutDown]
    done.Awaits 0 1001 ∧ RequestId.Names named 1001 ∧
      (done.hub.route done.session.now raw).answer = .reply ∧
      (after.run [.proceed 0, .proceed 0]).result? 0 =
        some (.ok (some .null)) := by
  intro done named raw after
  let actions : List Action := [.draft (.call "m" none) 100, .draw 0, .proceed 0]
  obtain ⟨written, delivered, -⟩ := results_come_back
  obtain ⟨leftAlone, received⟩ := delivered 5000 300000 1001 {} actions
  have names : RequestId.Names named 1001 :=
    RequestId.ofValue?_eq_some_iff.mp (by decide +kernel)
  have plainError : ∀ beside ∈ some (Json.Value.list [.boolean true]),
      Plain 126 beside := by
    intro beside chosen
    cases chosen
    apply Plain.list
    intro item inside
    rw [List.mem_singleton.mp inside]
    exact .boolean
  obtain ⟨reply, carries⟩ := written names plainError Plain.null
  have awaits : done.Awaits 0 1001 := by
    obtain ⟨errand, present⟩ : ∃ errand, done.errands[0]? = some errand :=
      Option.isSome_iff_exists.mp (by decide +kernel)
    have known : ∀ errand ∈ done.errands,
        errand.request.id = 1001 ∧ errand.phase.call?.isSome = true ∧
          errand.timeout ≠ 0 := by
      decide +kernel
    obtain ⟨id, underWay, nonzero⟩ :=
      known errand (List.mem_of_getElem? present)
    have others : ∀ action ∈ actions,
        action.otherId? = none ∧ action.clears = false := by
      decide +kernel
    rw [← id]
    apply leftAlone 0 errand present underWay (by decide +kernel) nonzero
    · intro action inside
      simp [(others action inside).1]
    · intro earlier action inside clears
      have among : action ∈ actions := inside.subset (by simp)
      rw [(others action among).2] at clears
      cases clears
    · rfl
  obtain ⟨taken, later⟩ := received 0 1001 raw awaits reply
  obtain ⟨-, -, returned⟩ := later [.other .dropCompleted, .other .shutDown]
  exact ⟨awaits, names, taken, returned .null carries⟩

end Exchange

end Switchboard
