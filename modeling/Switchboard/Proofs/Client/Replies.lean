import Mathlib.Data.List.Induction
import Switchboard.Proofs.Client.Exchange

/-!
# No reply is lost or swapped

From its registration to its end an errand has a record of its own, which tells
what has come in for it: the record is pending as long as nothing has, and
holds the first frame from then on.  Nothing else touches the record, for no two
requests share an id.  So a poll that looks at it gives the first frame, or
times out if there is none.
-/

namespace Switchboard

/-- How an errand ends, given the frames that came in for it. -/
def Outcome.ofFrames : List String → Outcome
  | [] => .timedOut
  | frame :: _ => .completed frame

/-- A record tells which frames came in for it. -/
def Record.Tells (record : Record) : List String → Prop
  | [] => record.state = .pending
  | frame :: _ => record.state = .completed ∧ record.payload = some frame

namespace Correlator

theorem openCall_of_absent {correlator : Correlator} {request : Request}
    (opened : correlator.closed = false)
    (absent : Records.find? request.id correlator.records = none)
    (now : Instant) {timeout : Nat} (nonzero : timeout ≠ 0) :
    (correlator.openCall now request timeout).answer =
        .ok
          { request := request
            handle :=
              { id := request.id
                source := .waiting correlator.cells.issued }
            timeout := timeout } ∧
      Records.find? request.id
          (correlator.openCall now request timeout).after.records =
        some (.fresh request.id now correlator.cells.issued) := by
  constructor
  · simp [openCall, openHandle, attach, nonzero, opened, absent, Cells.issue]
  · simp [openCall, openHandle, attach, nonzero, opened, absent, Cells.issue,
      store, Records.find?_put_self, Record.fresh]

/-- A poll finds the first frame that came in, if any. -/
theorem pollHandleBefore_of_tells {correlator : Correlator}
    (sound : correlator.Sound) {id : RequestId} {record : Record}
    {frames : List String}
    (found : Records.find? id correlator.records = some record)
    (tells : record.Tells frames) (rung deadline : Instant) :
    let polled :=
      correlator.pollHandleBefore rung deadline
        { id := id, source := .waiting record.cell }
    if frames = [] ∧ rung < deadline then
      polled.answer = none ∧ polled.after = correlator
    else
      polled.answer = some (.ofFrames frames) := by
  intro polled
  let stage : Stage :=
    .limited { id := id, source := .waiting record.cell } deadline
  have mine : stage.IsFor id := rfl
  have same : polled = correlator.pollStage rung stage := rfl
  have recordSound := sound.records found
  cases frames with
  | nil =>
      have unsettled := sound.unsettled_of_pending found tells
      rw [same, correlator.pollStage_of_unsettled rung mine rfl unsettled
        (owns_of_find? found)]
      by_cases late : deadline ≤ rung
      · have notBefore : ¬rung < deadline := Nat.not_lt.mpr late
        have pending : record.state = .pending := tells
        simp [stage, Stage.isLate, Stage.deadline?, late, notBefore,
          expire_of_pending found pending, Outcome.ofFrames]
      · have before : rung < deadline := Nat.lt_of_not_le late
        simp [stage, Stage.isLate, Stage.deadline?, late, before]
  | cons frame rest =>
      obtain ⟨completed, payload⟩ := tells
      obtain ⟨held, isHeld, settled⟩ := recordSound.completed completed
      obtain rfl : held = frame := by
        rw [payload] at isHeld
        exact (Option.some.inj isHeld).symm
      rw [same, correlator.pollStage_of_settled rung mine rfl settled]
      simp [Outcome.ofFrames, Settlement.outcome]

end Correlator

namespace Errand

/-- How an errand stands with the correlator, given the frames that came in for
it. -/
inductive Tracked (id : RequestId) (correlator : Correlator)
    (frames : List String) : Option Errand → Prop where
  /-- The request has not been registered, and no frame counts for it. -/
  | ahead {errand : Option Errand} :
      (∀ known ∈ errand, known.phase = .drafted) →
      frames = [] →
      correlator.closed = false →
      Records.find? id correlator.records = none →
      Tracked id correlator frames errand
  | afoot (errand : Errand) (record : Record) :
      errand.phase.call? =
        some
          { request := errand.request
            handle := { id := id, source := .waiting record.cell }
            timeout := errand.timeout } →
      Records.find? id correlator.records = some record →
      record.Tells frames →
      Tracked id correlator frames (some errand)
  | ended (errand : Errand) :
      errand.phase = .ended (.ofFrames frames) →
      Tracked id correlator frames (some errand)

/-- Where the next step of an errand is to take it, given the frames that came
in for it. -/
def Follows (errand : Errand) (now rung : Instant) (frames : List String)
    (next : ErrandPhase) : Prop :=
  match errand.phase with
  | .drafted => ∃ call, next = .sending call
  | .sending call => next = .waiting call (now + errand.timeout)
  | .waiting call deadline =>
      next =
        if frames = [] ∧ rung < deadline then .waiting call deadline
        else .ended (.ofFrames frames)
  | .ended outcome => outcome = .ofFrames frames ∧ next = .ended outcome
  | .refused _ => False

namespace Tracked

variable {id : RequestId} {before after : Correlator} {frames : List String}

private theorem elsewhere {errand : Option Errand}
    (tracked : Tracked id before frames errand)
    (same : Records.find? id after.records = Records.find? id before.records)
    (closed : after.closed = before.closed) :
    Tracked id after frames errand := by
  cases tracked with
  | ahead drafted quiet opened absent =>
      exact .ahead drafted quiet (closed.trans opened)
        (same.trans absent)
  | afoot known record underWay found tells =>
      exact .afoot known record underWay (same.trans found) tells
  | ended known phase => exact .ended known phase

theorem touched {errand : Option Errand}
    (tracked : Tracked id before frames errand) {other : RequestId}
    {ruling : Option Ruling} (touches : before.Touches other ruling after)
    (apart : id ≠ other) : Tracked id after frames errand :=
  tracked.elsewhere (touches.elsewhere apart) touches.closed_eq

theorem of_ended {errand : Option Errand}
    (tracked : Tracked id before frames errand)
    (ended : (errand.bind (·.phase.outcome?)).isSome = true) :
    Tracked id after frames errand := by
  cases tracked with
  | ahead drafted quiet opened absent =>
      cases errand with
      | none => cases ended
      | some known => simp [drafted known rfl, ErrandPhase.outcome?] at ended
  | afoot known record underWay found tells =>
      cases phase : known.phase <;>
        simp [phase, ErrandPhase.outcome?, ErrandPhase.call?]
          at ended underWay
  | ended known given => exact .ended known given

/-- Where the next step takes an errand, and that it stays tracked. -/
theorem proceed {errand : Errand} (sound : before.Sound)
    (mine : errand.request.id = id) (nonzero : errand.timeout ≠ 0)
    (tracked : Tracked id before frames (some errand)) (now rung : Instant) :
    errand.Follows now rung frames
        (errand.proceed now rung before).answer ∧
      Tracked id (errand.proceed now rung before).after frames
        (some { errand with
          phase := (errand.proceed now rung before).answer }) := by
  cases tracked with
  | ahead drafted quiet opened absent =>
      have phase : errand.phase = .drafted := drafted errand rfl
      subst mine
      obtain ⟨answer, found⟩ :=
        Correlator.openCall_of_absent opened absent now nonzero
      simp only [Follows, Errand.proceed, phase, Step.answer_map,
        Step.after_map, answer]
      refine ⟨⟨_, rfl⟩, ?_⟩
      apply Tracked.afoot _ _ rfl found
      rw [quiet]
      rfl
  | ended known phase =>
      simp only [Follows, Errand.proceed, phase]
      exact ⟨⟨trivial, trivial⟩, .ended _ rfl⟩
  | afoot known record underWay found tells =>
      cases phase : errand.phase with
      | sending call =>
          rw [phase] at underWay
          cases underWay
          simp only [Follows, Errand.proceed, phase]
          exact ⟨rfl, .afoot _ record rfl found tells⟩
      | waiting call deadline =>
          rw [phase] at underWay
          cases underWay
          have polled := Correlator.pollHandleBefore_of_tells sound found
            tells rung deadline
          simp only [Follows, Errand.proceed, phase, Step.answer_map,
            Step.after_map]
          split at polled
          · rename_i waits
            rw [polled.1, polled.2, if_pos waits]
            exact ⟨rfl, .afoot _ record rfl found tells⟩
          · rename_i ends
            rw [polled, if_neg ends]
            exact ⟨rfl, .ended _ rfl⟩
      | _ =>
          rw [phase] at underWay
          cases underWay

/-- A frame counts for an errand that is under way. -/
theorem receive {errand : Option Errand} (sound : before.Sound)
    (tracked : Tracked id before frames errand) (now : Instant)
    (raw : String) :
    Tracked id (before.complete now id raw).after
      (if (errand.bind (·.phase.call?)).isSome then frames ++ [raw]
        else frames) errand := by
  cases tracked with
  | ahead drafted quiet opened absent =>
      have idle : errand.bind (·.phase.call?) = none := by
        cases errand with
        | none => rfl
        | some known => simp [drafted known rfl, ErrandPhase.call?]
      have ignored : (before.complete now id raw).after = before := by
        simp [Correlator.complete, opened, absent]
      rw [ignored, idle]
      exact .ahead drafted quiet opened absent
  | ended known phase =>
      have idle : (some known).bind (·.phase.call?) = none := by
        simp [phase, ErrandPhase.call?]
      rw [idle]
      exact .ended known phase
  | afoot known record underWay found tells =>
      have opened := sound.open_of_found found
      simp only [Option.bind_some, underWay, Option.isSome_some, if_true]
      cases frames with
      | nil =>
          have pending : record.state = .pending := tells
          apply Tracked.afoot known
            { record with state := .completed, payload := some raw } underWay
          · simp [Correlator.complete, opened, found, Record.fulfil, pending,
              Correlator.store, Records.find?_put_self]
          · exact ⟨rfl, rfl⟩
      | cons frame rest =>
          have completed : record.state = .completed := tells.1
          have ignored : (before.complete now id raw).after = before := by
            simp [Correlator.complete, opened, found, Record.fulfil,
              completed]
          rw [ignored]
          exact .afoot known record underWay found tells

end Tracked

end Errand

namespace Exchange

/-- The frame that a step brings for an errand that is under way. -/
def arrival? (exchange : Exchange) (number : Nat) : Action → Option String
  | .receive raw =>
      exchange.errands[number]?.bind fun errand =>
        if errand.phase.call?.isSome ∧
            Frame.replied? raw = some errand.request.id then
          some raw
        else
          none
  | _ => none

/-- The frames that a run brings for an errand: those that carry the id of its
request and come in after its registration and before its end. -/
def arrivals (exchange : Exchange) (number : Nat) :
    List Action → List String
  | [] => []
  | action :: rest =>
      (exchange.arrival? number action).toList ++
        (exchange.act action).arrivals number rest

theorem arrivals_snoc (exchange : Exchange) (number : Nat)
    (actions : List Action) (action : Action) :
    exchange.arrivals number (actions ++ [action]) =
      exchange.arrivals number actions ++
        ((exchange.run actions).arrival? number action).toList := by
  induction actions generalizing exchange with
  | nil => simp [arrivals, run]
  | cons first rest induction =>
      simp only [List.cons_append, arrivals, induction, run,
        List.append_assoc]

/-- The steps that clear records or close the correlator. -/
def Action.clears : Action → Bool
  | .other .dropCompleted => true
  | .other (.sweep _) => true
  | .other .shutDown => true
  | _ => false

/-- The id that another party does something about. -/
def Action.otherId? : Action → Option RequestId
  | .other action => action.id?
  | _ => none

/-- The outcome of an errand that has ended. -/
def outcome? (exchange : Exchange) (number : Nat) : Option Outcome :=
  exchange.errands[number]?.bind fun errand => errand.phase.outcome?

/-- Nothing is cleared or closed before an errand ends. -/
def Undisturbed (exchange : Exchange) (number : Nat)
    (actions : List Action) : Prop :=
  ∀ earlier action, earlier ++ [action] <+: actions →
    action.clears = true →
      ((exchange.run earlier).outcome? number).isSome = true

/-- Nobody else does anything about an id. -/
def Private (id : RequestId) (actions : List Action) : Prop :=
  ∀ action ∈ actions, action.otherId? ≠ some id

/-- An id belongs to one errand and no other. -/
def Belongs (exchange : Exchange) (id : RequestId) (number : Nat) : Prop :=
  ∀ place errand, exchange.errands[place]? = some errand →
    (errand.request.id = id ↔ place = number)

section Steps

variable {exchange : Exchange} {id : RequestId} {number : Nat}
  {frames : List String}

theorem tracked_draw
    (tracked : Errand.Tracked id exchange.session.correlator frames
      exchange.errands[number]?) (place : Nat) :
    Errand.Tracked id (exchange.act (.draw place)).session.correlator
      frames (exchange.act (.draw place)).errands[number]? := by
  rw [session_draw]
  rcases exchange.errands_draw place with same | ⟨new, fresh, -, joined⟩
  · rwa [same]
  · rw [joined, List.getElem?_append]
    split
    · exact tracked
    · rename_i beyond
      rw [List.getElem?_eq_none (Nat.le_of_not_lt beyond)] at tracked
      cases tracked with
      | ahead drafted quiet opened absent =>
          apply Errand.Tracked.ahead _ quiet opened absent
          intro known member
          rw [Option.mem_def, List.getElem?_singleton] at member
          split at member
          · cases member
            exact fresh
          · cases member

theorem tracked_proceed (sound : exchange.Sound)
    (belongs : exchange.Belongs id number)
    (nonzero : ∀ errand, exchange.errands[number]? = some errand →
      errand.timeout ≠ 0)
    (tracked : Errand.Tracked id exchange.session.correlator frames
      exchange.errands[number]?) (place : Nat) :
    Errand.Tracked id (exchange.act (.proceed place)).session.correlator
      frames (exchange.act (.proceed place)).errands[number]? := by
  cases present : exchange.errands[place]? with
  | none => simpa [act, present] using tracked
  | some errand =>
      simp only [act, present]
      by_cases here : place = number
      · subst here
        obtain ⟨inside, _⟩ := List.getElem?_eq_some_iff.mp present
        rw [List.getElem?_set_self inside]
        rw [present] at tracked
        exact (tracked.proceed sound.session.correlator
          ((belongs place errand present).mpr rfl) (nonzero errand present)
          exchange.session.now exchange.session.rung).2
      · rw [List.getElem?_set_ne here]
        have own := sound.own errand (List.mem_of_getElem? present)
        obtain ⟨ruling, touches⟩ := Errand.proceed_touches own
          exchange.session.now exchange.session.rung
          exchange.session.correlator
        apply tracked.touched touches
        intro same
        exact here ((belongs place errand present).mp same.symm)

private theorem arrival?_receive (belongs : exchange.Belongs id number)
    (raw : String) :
    exchange.arrival? number (.receive raw) =
      if (exchange.errands[number]?.bind (·.phase.call?)).isSome ∧
          Frame.replied? raw = some id then
        some raw
      else
        none := by
  cases present : exchange.errands[number]? with
  | none => simp [arrival?, present]
  | some errand =>
      have mine := (belongs number errand present).mpr rfl
      simp [arrival?, present, mine]

private theorem tracked_receive (sound : exchange.Sound)
    (belongs : exchange.Belongs id number)
    (tracked : Errand.Tracked id exchange.session.correlator frames
      exchange.errands[number]?) (raw : String) :
    Errand.Tracked id (exchange.act (.receive raw)).session.correlator
      (frames ++ (exchange.arrival? number (.receive raw)).toList)
      (exchange.act (.receive raw)).errands[number]? := by
  have errands : (exchange.act (.receive raw)).errands = exchange.errands :=
    rfl
  rw [arrival?_receive belongs, errands]
  cases replies : Frame.replied? raw with
  | none =>
      rw [exchange.correlator_receive_of_none replies]
      simpa using tracked
  | some other =>
      by_cases here : id = other
      · subst here
        have received := tracked.receive sound.session.correlator
          exchange.session.now raw
        have routed := exchange.hub.correlator_route exchange.session.now raw
        rw [replies] at routed
        simp only [act, setCorrelator, routed]
        split at received
        · rename_i underWay
          rw [if_pos ⟨underWay, trivial⟩]
          exact received
        · rename_i idle
          rw [if_neg (fun both => idle both.1), Option.toList_none,
            List.append_nil]
          exact received
      · obtain ⟨ruling, touches⟩ := exchange.receive_touches replies
        have passes : ¬some other = some id := by
          simpa using fun equal : other = id => here equal.symm
        rw [if_neg (fun both => passes both.2), Option.toList_none,
          List.append_nil]
        exact tracked.touched touches here

private theorem tracked_other (sound : exchange.Sound)
    (tracked : Errand.Tracked id exchange.session.correlator frames
      exchange.errands[number]?) {action : Session.Action}
    (foreign : action.id? ≠ some id)
    (undisturbed : (Action.other action).clears = true →
      (exchange.outcome? number).isSome = true) :
    Errand.Tracked id (exchange.act (.other action)).session.correlator
      frames (exchange.act (.other action)).errands[number]? := by
  have errands : (exchange.act (.other action)).errands = exchange.errands :=
    rfl
  rw [errands]
  cases about : action.id? with
  | some other =>
      apply tracked.touched (Session.act_touches sound.session about)
      rintro rfl
      exact foreign about
  | none =>
      cases clears : (Action.other action).clears with
      | true =>
          -- The errand has ended, and what is cleared is none of its concern.
          exact tracked.of_ended (undisturbed clears)
      | false =>
          have same : (exchange.act (.other action)).session.correlator =
              exchange.session.correlator := by
            cases action with
            | advance millis => rfl
            | ring => rfl
            | dropCompleted => cases clears
            | sweep time => cases clears
            | shutDown => cases clears
            | _ => cases about
          rw [same]
          exact tracked

theorem tracked_act (sound : exchange.Sound)
    (belongs : exchange.Belongs id number)
    (nonzero : ∀ errand, exchange.errands[number]? = some errand →
      errand.timeout ≠ 0)
    (tracked : Errand.Tracked id exchange.session.correlator frames
      exchange.errands[number]?) (action : Action)
    (foreign : action.otherId? ≠ some id)
    (undisturbed : action.clears = true →
      (exchange.outcome? number).isSome = true) :
    Errand.Tracked id (exchange.act action).session.correlator
      (frames ++ (exchange.arrival? number action).toList)
      (exchange.act action).errands[number]? := by
  cases action with
  | draft order timeout => simpa [arrival?, act] using tracked
  | draw place => simpa [arrival?] using tracked_draw tracked place
  | proceed place =>
      simpa [arrival?] using
        tracked_proceed sound belongs nonzero tracked place
  | receive raw => exact tracked_receive sound belongs tracked raw
  | other own =>
      simpa [arrival?] using
        tracked_other sound tracked foreign undisturbed
  | dispatch dispatcher => simpa [arrival?, act] using tracked

end Steps

theorem Belongs.of_act {exchange : Exchange} {id : RequestId} {number : Nat}
    {action : Action} (belongs : (exchange.act action).Belongs id number) :
    exchange.Belongs id number := by
  intro place errand present
  obtain ⟨phase, there⟩ := errand_act present action
  have kept := belongs place { errand with phase := phase } there
  exact kept

/-- An errand stays tracked in a run in which its id is its own and nothing is
cleared before it ends. -/
theorem tracked_run {begun : Exchange} {id : RequestId} {number : Nat}
    {actions : List Action} (sound : begun.Sound)
    (tracked : Errand.Tracked id begun.session.correlator []
      begun.errands[number]?)
    (belongs : (begun.run actions).Belongs id number)
    (nonzero : ∀ errand, (begun.run actions).errands[number]? = some errand →
      errand.timeout ≠ 0)
    (foreign : Private id actions)
    (undisturbed : begun.Undisturbed number actions) :
    Errand.Tracked id (begun.run actions).session.correlator
      (begun.arrivals number actions)
      (begun.run actions).errands[number]? := by
  -- From the end of the run: only there is it known whose an id is, and
  -- what holds of ids there held before.
  induction actions using List.reverseRecOn with
  | nil => exact tracked
  | append_singleton actions action induction =>
      rw [run_snoc] at belongs nonzero ⊢
      rw [arrivals_snoc]
      have timed : ∀ errand,
          (begun.run actions).errands[number]? = some errand →
            errand.timeout ≠ 0 := by
        intro errand present
        obtain ⟨phase, there⟩ := errand_act present action
        have kept := nonzero { errand with phase := phase } there
        exact kept
      apply tracked_act (run_sound sound actions) belongs.of_act timed
      · apply induction belongs.of_act timed
        · intro step member
          exact foreign step (List.mem_append_left _ member)
        · intro earlier step inside
          exact undisturbed earlier step
            (inside.trans (List.prefix_append _ _))
      · exact foreign action (by simp)
      · exact undisturbed actions action (List.prefix_refl _)

/-- A call that is left alone is tracked from the start of an exchange on. -/
theorem tracked_of_start {defaultTimeout maxRecordAge : Nat}
    {first : RequestId} {dispatcher : Dispatcher} {actions : List Action}
    {number : Nat} {errand : Errand}
    (few : ((start defaultTimeout maxRecordAge first dispatcher).run
      actions).ids.length ≤ 2 ^ 64)
    (present : ((start defaultTimeout maxRecordAge first dispatcher).run
      actions).errands[number]? = some errand)
    (nonzero : errand.timeout ≠ 0)
    (foreign : Private errand.request.id actions)
    (undisturbed : (start defaultTimeout maxRecordAge first
      dispatcher).Undisturbed number actions) :
    Errand.Tracked errand.request.id
      ((start defaultTimeout maxRecordAge first dispatcher).run
        actions).session.correlator
      ((start defaultTimeout maxRecordAge first dispatcher).arrivals number
        actions)
      (some errand) := by
  have counted := counted_run
    (counted_start defaultTimeout maxRecordAge first dispatcher) actions
  have ahead : Errand.Tracked errand.request.id
      (start defaultTimeout maxRecordAge first dispatcher).session.correlator
      [] (start defaultTimeout maxRecordAge first
        dispatcher).errands[number]? := by
    apply Errand.Tracked.ahead
    · intro known member
      cases member
    · rfl
    · rfl
    · rfl
  rw [← present]
  apply tracked_run (sound_start ..) ahead
  · intro place other there
    constructor
    · intro same
      exact counted.number_eq few there present same
    · rintro rfl
      rw [present] at there
      rw [Option.some.inj there]
  · intro known there
    rw [present] at there
    rwa [← Option.some.inj there]
  · exact foreign
  · exact undisturbed

/-- All ids are different, wherever the client's source started, and a call
that is left alone ends with the first frame that carries its id or, if none
comes before a poll behind the deadline, with a timeout. -/
theorem calls_get_their_replies (defaultTimeout maxRecordAge : Nat)
    (first : RequestId) (dispatcher : Dispatcher) (actions : List Action) :
    let begun := start defaultTimeout maxRecordAge first dispatcher
    let done := begun.run actions
    done.ids.length ≤ 2 ^ 64 →
      done.ids.Nodup ∧
      (∀ errand ∈ done.errands,
        errand.order.Fills errand.ids errand.request) ∧
      ∀ number errand, done.errands[number]? = some errand →
        errand.timeout ≠ 0 →
        Private errand.request.id actions →
        begun.Undisturbed number actions →
          errand.Follows done.session.now done.session.rung
            (begun.arrivals number actions) (done.step errand).answer := by
  intro begun done few
  have counted : done.Counted ⟨first⟩ :=
    counted_run (counted_start ..) actions
  refine ⟨counted.nodup few, counted.fills, ?_⟩
  intro number errand present nonzero foreign undisturbed
  have tracked := tracked_of_start few present nonzero foreign undisturbed
  have sound : done.Sound := run_sound (sound_start ..) actions
  exact (tracked.proceed sound.session.correlator rfl nonzero _ _).1

/-- Three calls over the wrap, whose ids are drawn in turns.  One gets its reply,
as a text, while its frame is being sent, one gets none, and one gets two. -/
theorem calls_get_their_replies_over_wrap :
    let begun := start 5000 300000 Int64.maxValue {}
    let textual := "\x7b\"id\":\"-9223372036854775808\"\x7d"
    let numeric := "\x7b\"id\":9223372036854775807,\"result\":1\x7d"
    let again := "\x7b\"id\":9223372036854775807,\"result\":2\x7d"
    let actions : List Action :=
      [.draft (.call "first" none) 100,
        .draft (.subscription .register "service." "event") 100,
        .draft (.call "last" none) 100,
        .draw 1, .draw 0, .proceed 0, .receive textual, .draw 1, .draw 0,
        .proceed 1, .proceed 1, .proceed 2, .receive "garbage",
        .receive numeric, .receive again, .receive "\x7b\"id\":5\x7d",
        .proceed 2, .proceed 0, .other (.advance 100), .other .ring]
    let done := begun.run actions
    let ended := done.run [.proceed 0, .proceed 1, .proceed 2]
    done.errands.map (·.ids) =
        [[Int64.minValue], [Int64.minValue + 1],
          [Int64.maxValue, Int64.minValue + 2]] ∧
      (List.range 3).map (begun.arrivals · actions) =
        [[textual], [], [numeric, again]] ∧
      (List.range 3).map ended.outcome? =
        [some (.completed textual), some .timedOut,
          some (.completed numeric)] ∧
      ∀ (number : Nat) (errand : Errand),
        done.errands[number]? = some errand →
        errand.Follows done.session.now done.session.rung
          (begun.arrivals number actions) (done.step errand).answer := by
  intro begun textual numeric again actions done ended
  refine ⟨by decide +kernel, by decide +kernel, by decide +kernel, ?_⟩
  intro number errand present
  have few : done.ids.length ≤ 2 ^ 64 := by decide +kernel
  have member := List.mem_of_getElem? present
  have timed : ∀ errand ∈ done.errands, errand.timeout ≠ 0 := by
    decide +kernel
  have foreign : ∀ action ∈ actions, action.otherId? = none := by
    decide +kernel
  have quiet : ∀ action ∈ actions, action.clears = false := by
    decide +kernel
  have replies := (calls_get_their_replies 5000 300000 Int64.maxValue {}
    actions few).2.2 number errand present (timed errand member)
  -- With its parts unfolded the run is compared as it is written, and is not
  -- evaluated for an errand that nothing is known of.
  simp only [done, begun]
  apply replies
  · intro action inside
    simp [foreign action inside]
  · intro earlier action inside clears
    have among : action ∈ actions := inside.subset (by simp)
    rw [quiet action among] at clears
    cases clears

end Exchange

end Switchboard
