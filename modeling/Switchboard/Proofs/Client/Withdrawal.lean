import Switchboard.Proofs.Client.Replies
import Switchboard.Proofs.Correlator.Independence

/-!
# Calls that are withdrawn

A call is registered before its frame is sent, and is withdrawn when the frame
cannot be sent.  In between the transport may take its time: frames come in,
others use the correlator, and time goes by.  A withdrawal cancels the
request, and what is pending can be cancelled; but a reply that came in for
the request has completed it, and then its record stays.  Other ids see
nothing of the call.
-/

namespace Switchboard

/-- What can happen while a request is being sent. -/
inductive Incident where
  /-- A frame comes in. -/
  | frame (dispatcher : Dispatcher) (raw : String)
  /-- Another party does something, or time goes by. -/
  | step (action : Session.Action)

namespace Session

/-- Whether a step removes completed records. -/
def Action.purges : Action → Bool
  | .dropCompleted => true
  | .sweep _ => true
  | .shutDown => true
  | _ => false

end Session

namespace Incident

/-- Nobody but the call uses its id.  Frames are the transport's own. -/
def Foreign (id : RequestId) : Incident → Prop
  | .frame _ _ => True
  | .step action => action.id? ≠ some id

/-- The id that an incident brings a reply for. -/
def replied? : Incident → Option RequestId
  | .frame _ raw => Frame.replied? raw
  | .step _ => none

def purges : Incident → Bool
  | .frame _ _ => false
  | .step action => action.purges

/-- The steps that an incident comes down to. -/
def actions : Incident → List Session.Action
  | .frame _ raw =>
      ((Frame.replied? raw).map fun id =>
        Session.Action.complete id raw).toList
  | .step action => [action]

end Incident

/-- A record behind a reply.  Only one that is pending takes it. -/
def Record.replied (record : Record) (raw : String) : Record :=
  if record.state = .pending then
    { record with state := .completed, payload := some raw }
  else
    record

/-- What is held under an id, whatever the number of the record's cell: the
record, and what the cell is settled with. -/
def Correlator.held? (correlator : Correlator) (id : RequestId) :
    Option (Record × Option Settlement) :=
  (Records.find? id correlator.records).map fun record =>
    (record.rename fun _ => 0, correlator.cells.settlement? record.cell)

namespace Session

/-- Registers a request and hands its frame to the transport.  The caller waits
with the others on its id. -/
def openCall (session : Session) (request : Request) (timeout : Nat) :
    Step Session (Except CorrelationError Call) :=
  let opened :=
    session.onCorrelator (·.openCall session.now request timeout)
  { opened with
    after := opened.after.enter request.id
      (opened.answer.toOption.map fun call =>
        { origin := session.correlator.origin request.id
          stage := .holding call.handle }) }

/-- Ends a call whose frame could not be sent. -/
def sendFailed (session : Session) (call : Call) (error : CorrelationError) :
    Step Session (Except CorrelationError Instant) :=
  session.onCorrelator (·.sendEnded session.now call (some error))

/-- The session behind an incident. -/
def meet (session : Session) : Incident → Session
  | .frame dispatcher raw =>
      let hub : Hub :=
        { correlator := session.correlator, dispatcher := dispatcher }
      { session with
        correlator := (hub.route session.now raw).after.correlator }
  | .step action => (session.act action).after

def meetAll (session : Session) (incidents : List Incident) : Session :=
  incidents.foldl meet session

/-- A reply came in while the record of an id was pending, and no later
incident has removed it. -/
def Answered (session : Session) (id : RequestId)
    (incidents : List Incident) (raw : String) : Prop :=
  ∃ earlier dispatcher later,
    incidents = earlier ++ .frame dispatcher raw :: later ∧
    Frame.replied? raw = some id ∧
    (session.meetAll earlier).correlator.state? id = some .pending ∧
    ∀ incident ∈ later, incident.purges = false

theorem meet_eq_run (session : Session) (incident : Incident) :
    session.meet incident = session.run incident.actions := by
  cases incident with
  | step action => rfl
  | frame dispatcher raw =>
      simp only [meet, Hub.correlator_route, Incident.actions]
      cases Frame.replied? raw <;> rfl

theorem meetAll_eq_run (session : Session) (incidents : List Incident) :
    session.meetAll incidents =
      session.run (incidents.flatMap Incident.actions) := by
  induction incidents generalizing session with
  | nil => rfl
  | cons incident rest induction =>
      rw [List.flatMap_cons, run_append, ← meet_eq_run]
      exact induction (session.meet incident)

theorem meetAll_snoc (session : Session) (incidents : List Incident)
    (incident : Incident) :
    session.meetAll (incidents ++ [incident]) =
      (session.meetAll incidents).meet incident := by
  simp [meetAll]

theorem meetAll_sound {session : Session} (sound : session.Sound)
    (incidents : List Incident) : (session.meetAll incidents).Sound := by
  rw [meetAll_eq_run]
  exact run_sound sound _

end Session

/-! ## The record of the call -/

namespace Correlator

theorem find?_complete {correlator : Correlator} (sound : correlator.Sound)
    (now : Instant) (id : RequestId) (raw : String) :
    Records.find? id (correlator.complete now id raw).after.records =
      (Records.find? id correlator.records).map
        fun record => record.replied raw := by
  by_cases closed : correlator.closed = true
  · simp [complete, closed, sound.emptied closed, Records.find?]
  · cases found : Records.find? id correlator.records with
    | none => simp [complete, closed, found]
    | some record =>
        by_cases pending : record.state = .pending
        · simp [complete, closed, found, Record.fulfil, Record.replied,
            pending, store, Records.find?_put_self]
        · simp [complete, closed, found, Record.fulfil, Record.replied,
            pending]

theorem find?_cancel (correlator : Correlator) (id : RequestId) :
    Records.find? id (correlator.cancel id).after.records =
      (Records.find? id correlator.records).filter
        fun record => record.state ≠ .pending := by
  cases found : Records.find? id correlator.records with
  | none => simp [cancel, found]
  | some record =>
      by_cases pending : record.state = .pending
      · simp [cancel, found, Record.cancel, pending, remove,
          Records.find?_erase_self, Option.filter_some]
      · simp [cancel, found, Record.cancel, pending, Option.filter_some]

end Correlator

theorem Record.replied_of_decided {record : Record}
    (decided : record.state ≠ .pending) (raw : String) :
    record.replied raw = record :=
  if_neg decided

theorem Record.state_replied {record : Record}
    (pending : record.state = .pending) (raw : String) :
    (record.replied raw).state = .completed := by
  rw [Record.replied, if_pos pending]

namespace Session

theorem keeps_of_completed (session : Session) (action : Action)
    {record : Record} (completed : record.state = .completed) :
    session.keeps action record = !action.purges := by
  cases action <;>
    simp [keeps, Correlator.keeps, Action.purges, completed]

theorem keeps_of_spared (session : Session) {action : Action}
    (spared : action.purges = false) (record : Record) :
    session.keeps action record = true := by
  cases action <;> first | rfl | cases spared

/-- What an incident makes of a record whose id only the call uses. -/
def change (session : Session) (id : RequestId) :
    Incident → Option Record → Option Record
  | .frame _ raw, held =>
      if Frame.replied? raw = some id then
        held.map fun record => record.replied raw
      else
        held
  | .step action, held => held.filter (session.keeps action)

theorem find?_meet {session : Session} (sound : session.Sound)
    {id : RequestId} {incident : Incident} (foreign : incident.Foreign id) :
    Records.find? id (session.meet incident).correlator.records =
      session.change id incident
        (Records.find? id session.correlator.records) := by
  cases incident with
  | frame dispatcher raw =>
      simp only [meet, Hub.correlator_route, change]
      cases replied : Frame.replied? raw with
      | none => simp
      | some other =>
          by_cases same : other = id
          · subst same
            simpa using
              Correlator.find?_complete sound.correlator session.now other raw
          · have touches :=
              session.correlator.complete_touches session.now other raw
            simp [same, touches.elsewhere (Ne.symm same)]
  | step action =>
      simp only [meet, change]
      cases about : action.id? with
      | none => exact (act_clears sound about).find? sound.correlator id
      | some other =>
          have different : id ≠ other := by
            rintro rfl
            exact foreign about
          have kept : session.keeps action = fun _ => true := by
            cases action <;> first | rfl | cases about
          rw [(act_touches sound about).elsewhere different, kept]
          cases Records.find? id session.correlator.records <;> rfl

section Sending

variable {session : Session} {id : RequestId} {record : Record}

private theorem Answered.snoc {incidents : List Incident} {raw : String}
    (answered : session.Answered id incidents raw) {incident : Incident}
    (kept : incident.purges = false) :
    session.Answered id (incidents ++ [incident]) raw := by
  obtain ⟨earlier, dispatcher, later, split, replied, pending, spared⟩ :=
    answered
  refine ⟨earlier, dispatcher, later ++ [incident], ?_, replied, pending, ?_⟩
  · rw [split, List.append_assoc, List.cons_append]
  · intro other member
    rcases List.mem_append.mp member with before | last
    · exact spared other before
    · rw [List.mem_singleton.mp last]
      exact kept

/-- The record of the call stays as it is until a reply comes in for it. -/
theorem record_of_meetAll (sound : session.Sound)
    (found : Records.find? id session.correlator.records = some record)
    (pending : record.state = .pending) {incidents : List Incident}
    (foreign : ∀ incident ∈ incidents, incident.Foreign id)
    {behind : Record}
    (stored : Records.find? id
      (session.meetAll incidents).correlator.records = some behind) :
    behind = record ∨
      ∃ raw, session.Answered id incidents raw ∧
        behind = record.replied raw := by
  -- Incidents are taken off the end: which reply was the first is settled by
  -- what came before, and a later incident does not change that.
  induction incidents using List.reverseRecOn generalizing behind with
  | nil => exact .inl (Option.some.inj (stored.symm.trans found))
  | append_singleton incidents incident induction =>
      have reached := meetAll_sound sound incidents
      have before := fun earlier member =>
        foreign earlier (List.mem_append_left _ member)
      rw [meetAll_snoc,
        find?_meet reached (foreign incident (by simp))] at stored
      cases incident with
      | frame dispatcher raw =>
          simp only [change] at stored
          split at stored
          · rename_i replied
            obtain ⟨old, oldStored, rfl⟩ := Option.map_eq_some_iff.mp stored
            rcases induction before oldStored with
              rfl | ⟨first, answered, rfl⟩
            · refine .inr ⟨raw, ?_, rfl⟩
              refine ⟨incidents, dispatcher, [], rfl, replied, ?_, by simp⟩
              simp [Correlator.state?, oldStored, pending]
            · have completed := Record.state_replied pending first
              refine .inr ⟨first, answered.snoc rfl, ?_⟩
              exact Record.replied_of_decided (by simp [completed]) raw
          · rcases induction before stored with
              unanswered | ⟨first, answered, taken⟩
            · exact .inl unanswered
            · exact .inr ⟨first, answered.snoc rfl, taken⟩
      | step action =>
          obtain ⟨oldStored, kept⟩ := Option.filter_eq_some_iff.mp stored
          rcases induction before oldStored with
            unanswered | ⟨first, answered, rfl⟩
          · exact .inl unanswered
          · have completed := Record.state_replied pending first
            rw [keeps_of_completed _ action completed] at kept
            have spared : (Incident.step action).purges = false := by
              simpa [Incident.purges] using kept
            exact .inr ⟨first, answered.snoc spared, rfl⟩

private theorem completed_meetAll (sound : session.Sound)
    (found : Records.find? id session.correlator.records = some record)
    (completed : record.state = .completed) {incidents : List Incident}
    (foreign : ∀ incident ∈ incidents, incident.Foreign id)
    (spared : ∀ incident ∈ incidents, incident.purges = false) :
    Records.find? id (session.meetAll incidents).correlator.records =
      some record := by
  induction incidents generalizing session with
  | nil => exact found
  | cons incident rest induction =>
      have next : Records.find? id
          (session.meet incident).correlator.records = some record := by
        rw [find?_meet sound (foreign incident List.mem_cons_self), found]
        cases incident with
        | frame dispatcher raw =>
            have kept : record.replied raw = record :=
              Record.replied_of_decided (by simp [completed]) raw
            simp [change, kept]
        | step action =>
            have kept : action.purges = false :=
              spared (.step action) List.mem_cons_self
            simp [change, session.keeps_of_spared kept, Option.filter_some]
      have reached : (session.meet incident).Sound :=
        meetAll_sound sound [incident]
      exact induction reached next
        (fun later member => foreign later (List.mem_cons_of_mem _ member))
        (fun later member => spared later (List.mem_cons_of_mem _ member))

/-- A record that has taken a reply is there until it is purged. -/
theorem Answered.stored {incidents : List Incident} {raw : String}
    (answered : session.Answered id incidents raw) (sound : session.Sound)
    (found : Records.find? id session.correlator.records = some record)
    (pending : record.state = .pending)
    (foreign : ∀ incident ∈ incidents, incident.Foreign id) :
    Records.find? id (session.meetAll incidents).correlator.records =
      some (record.replied raw) := by
  obtain ⟨earlier, dispatcher, later, rfl, replied, waiting, spared⟩ :=
    answered
  have reached := meetAll_sound sound earlier
  obtain ⟨old, stored, oldPending⟩ := Option.map_eq_some_iff.mp waiting
  have same : old = record := by
    rcases record_of_meetAll sound found pending
      (fun incident member => foreign incident (by simp [member])) stored with
      unanswered | ⟨first, _, rfl⟩
    · exact unanswered
    · rw [Record.state_replied pending first] at oldPending
      cases oldPending
  subst same
  have taken : Records.find? id
      ((session.meetAll earlier).meet
        (.frame dispatcher raw)).correlator.records =
          some (old.replied raw) := by
    have mine : Incident.Foreign id (.frame dispatcher raw) := trivial
    rw [find?_meet reached mine, stored]
    simp [change, replied]
  have behind :=
    completed_meetAll (meetAll_sound reached [.frame dispatcher raw]) taken
      (Record.state_replied pending raw)
      (fun incident member => foreign incident (by simp [member])) spared
  simpa [meetAll] using behind

private theorem Answered.cons {incident : Incident} {incidents : List Incident}
    {raw : String}
    (answered : (session.meet incident).Answered id incidents raw) :
    session.Answered id (incident :: incidents) raw := by
  obtain ⟨earlier, dispatcher, later, split, rest⟩ := answered
  exact ⟨incident :: earlier, dispatcher, later, by rw [split]; rfl, rest⟩

/-- Where nothing is purged, one of the replies that come in is taken. -/
theorem exists_answered (sound : session.Sound)
    (found : Records.find? id session.correlator.records = some record)
    (pending : record.state = .pending) {incidents : List Incident}
    (foreign : ∀ incident ∈ incidents, incident.Foreign id)
    (spared : ∀ incident ∈ incidents, incident.purges = false)
    (replied : ∃ incident ∈ incidents, incident.replied? = some id) :
    ∃ raw, session.Answered id incidents raw := by
  induction incidents generalizing session with
  | nil => simp at replied
  | cons incident rest induction =>
      have mine := foreign incident List.mem_cons_self
      by_cases first : incident.replied? = some id
      · cases incident with
        | step action => cases first
        | frame dispatcher raw =>
            refine ⟨raw, [], dispatcher, rest, rfl, first, ?_,
              fun later member => spared later (List.mem_cons_of_mem _ member)⟩
            simp [meetAll, Correlator.state?, found, pending]
      · have still : Records.find? id
            (session.meet incident).correlator.records = some record := by
          rw [find?_meet sound mine, found]
          cases incident with
          | frame dispatcher raw => exact if_neg first
          | step action =>
              have kept : action.purges = false :=
                spared (.step action) List.mem_cons_self
              simp [change, session.keeps_of_spared kept, Option.filter_some]
        obtain ⟨answering, member, isReply⟩ := replied
        have inRest : answering ∈ rest := by
          rcases List.mem_cons.mp member with rfl | later
          · exact (first isReply).elim
          · exact later
        obtain ⟨raw, answered⟩ :=
          induction (meetAll_sound sound [incident]) still
            (fun later member => foreign later (List.mem_cons_of_mem _ member))
            (fun later member => spared later (List.mem_cons_of_mem _ member))
            ⟨answering, inRest, isReply⟩
        exact ⟨raw, answered.cons⟩

end Sending

/-! ## Other ids -/

private theorem held?_eq_of_own_steps (defaultTimeout maxRecordAge : Nat)
    (actions : List Action) (id : RequestId) :
    let begun := start defaultTimeout maxRecordAge
    (begun.run actions).correlator.held? id =
      (begun.run (actions.filter fun action =>
        action.concerns id)).correlator.held? id := by
  intro begun
  let rho : Renaming := fun cell => (begun.cellsFor id actions).getD cell 0
  have sound := sound_start defaultTimeout maxRecordAge
  have follows : Mirrors.Follows id rho begun begun actions := by
    intro number cell issued
    have none : begun.correlator.cells.issued = 0 := rfl
    simp [rho, none, issued]
  obtain ⟨_, mirrors⟩ :=
    (mirrors_start id rho defaultTimeout maxRecordAge).run sound sound follows
  have ownSound := run_sound sound
    (actions.filter fun action => action.concerns id)
  unfold Correlator.held?
  rw [mirrors.correlator.record, Option.map_map]
  apply Option.map_congr
  intro record found
  have issued := (ownSound.correlator.records found).issued
  have settled : (begun.run actions).correlator.cells.settlement?
      (rho record.cell) = _ := mirrors.correlator.settlement issued
  exact congrArg (Prod.mk (record.rename fun _ => 0)) settled

private theorem held?_of_interposed (defaultTimeout maxRecordAge : Nat)
    (earlier later : List Action) {id other : RequestId}
    {first second : Action} (firstAbout : first.id? = some id)
    (secondAbout : second.id? = some id) (different : other ≠ id) :
    let begun := start defaultTimeout maxRecordAge
    (begun.run (earlier ++ first :: later ++ [second])).correlator.held?
        other =
      (begun.run (earlier ++ later)).correlator.held? other := by
  intro begun
  have ignored : ∀ {action : Action}, action.id? = some id →
      action.concerns other = false := fun about => by
    simp [Action.concerns, about, different.symm]
  have same :
      (earlier ++ first :: later ++ [second]).filter
          (fun action => action.concerns other) =
        (earlier ++ later).filter fun action => action.concerns other := by
    simp [ignored firstAbout, ignored secondAbout]
  have interposed := held?_eq_of_own_steps defaultTimeout maxRecordAge
    (earlier ++ first :: later ++ [second]) other
  rw [same] at interposed
  exact interposed.trans
    (held?_eq_of_own_steps _ _ (earlier ++ later) other).symm

/-! ## The call -/

private theorem openCall_of_absent {session : Session} {request : Request}
    (opened : session.correlator.closed = false)
    (absent :
      Records.find? request.id session.correlator.records = none)
    {timeout : Nat} (nonzero : timeout ≠ 0) :
    let call : Call :=
      { request := request
        handle :=
          { id := request.id
            source := .waiting session.correlator.cells.issued }
        timeout := timeout }
    (session.openCall request timeout).answer = .ok call ∧
      (session.openCall request timeout).after =
        (session.act (.openHandle request.id)).after ∧
      Records.find? request.id
          (session.openCall request timeout).after.correlator.records =
        some
          (.fresh request.id session.now session.correlator.cells.issued) := by
  intro call
  obtain ⟨answer, found⟩ :=
    Correlator.openCall_of_absent opened absent session.now nonzero
  refine ⟨answer, ?_, found⟩
  have handle : (session.correlator.openHandle session.now
      request.id).answer = call.handle := by
    simp [Correlator.openHandle, Correlator.attach, opened, absent,
      Cells.issue, call]
  have registered : (session.correlator.openCall session.now request
      timeout).after =
        (session.correlator.openHandle session.now request.id).after := by
    simp [Correlator.openCall, nonzero, opened]
  simp only [openCall, act, openHandle, onCorrelator, Step.after_lift,
    Step.answer_lift, answer, registered, handle]
  rfl

/-- A call that the transport fails to send leaves a record only if a reply was
taken for it meanwhile and not purged since, and then the record with that
reply.  Other ids are left as they would be without the call. -/
theorem failed_call_leaves_only_its_reply (defaultTimeout maxRecordAge : Nat)
    (actions : List Action) (request : Request) {timeout : Nat}
    (nonzero : timeout ≠ 0) (error : CorrelationError)
    (incidents : List Incident)
    (foreign : ∀ incident ∈ incidents, incident.Foreign request.id) :
    let session := (start defaultTimeout maxRecordAge).run actions
    let id := request.id
    session.correlator.closed = false →
    Records.find? id session.correlator.records = none →
      let opened := session.openCall request timeout
      ∃ call, opened.answer = .ok call ∧
        let sending := opened.after
        let ended := (sending.meetAll incidents).sendFailed call error
        let after := ended.after.correlator
        ended.answer = .error error ∧
        (∀ record, Records.find? id after.records = some record ↔
          ∃ raw, sending.Answered id incidents raw ∧
            record =
              { id := id, state := .completed, payload := some raw
                createdAt := session.now
                cell := session.correlator.cells.issued }) ∧
        ((∀ incident ∈ incidents, incident.replied? ≠ some id) →
          Records.find? id after.records = none) ∧
        ((∀ incident ∈ incidents, incident.purges = false) →
          (Records.find? id after.records ≠ none ↔
            ∃ incident ∈ incidents, incident.replied? = some id)) ∧
        ∀ other, other ≠ id →
          after.held? other =
            (session.meetAll incidents).correlator.held? other := by
  intro session id isOpen absent opened
  have sound : session.Sound :=
    run_sound (sound_start defaultTimeout maxRecordAge) actions
  obtain ⟨answer, registered, found⟩ :=
    openCall_of_absent isOpen absent nonzero
  refine ⟨_, answer, ?_⟩
  intro sending ended after
  have sendingSound : sending.Sound := by
    have handled := act_sound sound (.openHandle id)
    rw [← registered] at handled
    exact handled
  have withdrawn : Records.find? id after.records =
      (Records.find? id
        (sending.meetAll incidents).correlator.records).filter
          fun record => record.state ≠ .pending :=
    Correlator.find?_cancel _ id
  have left : ∀ record, Records.find? id after.records = some record ↔
      ∃ raw, sending.Answered id incidents raw ∧
        record =
          { id := id, state := .completed, payload := some raw
            createdAt := session.now
            cell := session.correlator.cells.issued } := by
    intro record
    rw [withdrawn, Option.filter_eq_some_iff]
    constructor
    · rintro ⟨stored, decided⟩
      rcases record_of_meetAll sendingSound found rfl foreign stored with
        rfl | ⟨raw, answered, taken⟩
      · simp [Record.fresh] at decided
      · exact ⟨raw, answered, taken⟩
    · rintro ⟨raw, answered, rfl⟩
      exact ⟨answered.stored sendingSound found rfl foreign, by simp⟩
  have unanswered : (∀ incident ∈ incidents, incident.replied? ≠ some id) →
      Records.find? id after.records = none := by
    intro silent
    by_contra some
    obtain ⟨record, stored⟩ := Option.ne_none_iff_exists'.mp some
    obtain ⟨raw, ⟨earlier, dispatcher, later, split, replied, _⟩, _⟩ :=
      (left record).mp stored
    exact silent (.frame dispatcher raw) (by simp [split]) replied
  refine ⟨rfl, left, unanswered, ?_, ?_⟩
  · intro spared
    constructor
    · intro some
      by_contra silent
      push Not at silent
      exact some (unanswered silent)
    · intro replied
      obtain ⟨raw, answered⟩ :=
        exists_answered sendingSound found rfl foreign spared replied
      rw [(left _).mpr ⟨raw, answered, rfl⟩]
      exact Option.some_ne_none _
  · intro other different
    have whole : after.held? other =
        ((start defaultTimeout maxRecordAge).run
          (actions ++ .openHandle id ::
            incidents.flatMap Incident.actions ++
              [.cancel id])).correlator.held? other := by
      rw [List.append_assoc, run_append, List.cons_append, run, ← registered,
        run_snoc, ← meetAll_eq_run]
      rfl
    rw [whole, held?_of_interposed defaultTimeout maxRecordAge actions _ rfl
      rfl different, run_append, ← meetAll_eq_run]

/-- An old record is swept, a reply to another request comes in, and a third
request is cancelled, before the call fails. -/
theorem failed_call_beside_other_requests :
    let before : List Action :=
      [.openHandle 6, .advance 11, .openHandle 7, .openHandle 8]
    let session := (start 5000 10).run before
    let request : Request := { id := 1001, method := "m" }
    let incidents : List Incident :=
      [.step (.sweep 11), .frame {} "\x7b\"id\":7,\"result\":1\x7d",
        .step (.cancel 8), .step (.advance 5), .step .ring]
    let opened := session.openCall request 1000
    ∃ call, opened.answer = .ok call ∧
      let ended := (opened.after.meetAll incidents).sendFailed call
        (.transport "link down")
      ended.answer = .error (.transport "link down") ∧
      Records.find? 1001 ended.after.correlator.records = none ∧
      ended.after.correlator.held? 7 =
        (session.meetAll incidents).correlator.held? 7 ∧
      [6, 7, 8].map (session.meetAll incidents).correlator.state? =
        [none, some .completed, none] := by
  intro before session request incidents opened
  have replied : Frame.replied? "\x7b\"id\":7,\"result\":1\x7d" = some 7 := by
    decide +kernel
  have foreign : ∀ incident ∈ incidents, incident.Foreign request.id := by
    simp [incidents, Incident.Foreign, Action.id?, request]
  obtain ⟨call, answer, refused, _, unanswered, _, others⟩ :=
    failed_call_leaves_only_its_reply 5000 10 before request
      (show 1000 ≠ 0 by decide) (.transport "link down") incidents foreign rfl
      rfl
  refine ⟨call, answer, refused, unanswered ?_, others 7 (by decide), ?_⟩
  · simp [incidents, Incident.replied?, replied, request]
  · decide +kernel

/-- A failed call does not always leave its id as it found it: the reply came in
before the transport failed. -/
theorem failed_call_not_always_traceless :
    ¬∀ (defaultTimeout maxRecordAge : Nat) (actions : List Action)
        (request : Request) (timeout : Nat) (error : CorrelationError)
        (incidents : List Incident) (call : Call),
      let session := (start defaultTimeout maxRecordAge).run actions
      let opened := session.openCall request timeout
      Records.find? request.id session.correlator.records = none →
      timeout ≠ 0 →
      (∀ incident ∈ incidents, incident.Foreign request.id) →
      opened.answer = .ok call →
        Records.find? request.id
          ((opened.after.meetAll incidents).sendFailed call
            error).after.correlator.records = none := by
  intro traceless
  have gone := traceless 5000 300000 [] { id := 1001, method := "m" } 1000
    (.transport "link down")
    [.frame {} "\x7b\"id\":1001,\"result\":1\x7d"]
    { request := { id := 1001, method := "m" }
      handle := { id := 1001, source := .waiting 0 }
      timeout := 1000 }
    rfl (by decide) (by simp [Incident.Foreign]) rfl
  revert gone
  decide +kernel

end Session

end Switchboard
