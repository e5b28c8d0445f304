import Switchboard.Proofs.Correlator.Invariant

/-!
# Two ways to wait

A caller may wait with a deadline from the start, or open a handle and give it
a deadline.  Two sessions that differ in nothing but one waiter, who has taken
one way here and the other way there, are twins.  Every step keeps twins: it
does the same to both correlators and reports the same.  The waiters of twins
end together, but for one thing: who is told the outcome at once has ended
before its first poll, and who opens a handle has not.
-/

namespace Switchboard

/-- The outcome of a caller who has ended. -/
def Stage.outcome? : Stage → Option Outcome
  | .ended outcome => some outcome
  | _ => none

/-- The stages of one caller on the two ways.  Only until the first poll can
one have ended without the other. -/
inductive Stage.Twins (id : RequestId) : Bool → Stage → Stage → Prop where
  | waiting {polled : Bool} (cell : CellId) (deadline : Instant) :
      Twins id polled
        (.waiting { id := id, cell := cell, deadline := deadline })
        (.limited { id := id, source := .waiting cell } deadline)
  | ended {polled : Bool} (outcome : Outcome) :
      Twins id polled (.ended outcome) (.ended outcome)
  | early (outcome : Outcome) (deadline : Instant) :
      Twins id false (.ended outcome)
        (.limited { id := id, source := .ready (some outcome) } deadline)

namespace Stage.Twins

variable {id : RequestId} {polled : Bool} {stage twin : Stage}

theorem outcome?_eq (twins : Twins id true stage twin) :
    stage.outcome? = twin.outcome? := by
  cases twins with
  | waiting => rfl
  | ended => rfl

theorem ne_holding (twins : Twins id polled stage twin) (handle : Handle) :
    stage ≠ .holding handle ∧ twin ≠ .holding handle := by
  cases twins with
  | waiting => exact ⟨nofun, nofun⟩
  | ended => exact ⟨nofun, nofun⟩
  | early => exact ⟨nofun, nofun⟩

/-- The two polls do the same to the correlator, and the stages behind them are
again those of one caller, who has been polled. -/
theorem poll {correlator : Correlator} (sound : correlator.Sound)
    (rung : Instant) (twins : Twins id polled stage twin)
    (attached : ∀ {cell : CellId},
      stage.cell? = some cell → correlator.Attached id cell) :
    (correlator.pollStage rung stage).after =
        (correlator.pollStage rung twin).after ∧
      (correlator.pollStage rung stage).reports =
        (correlator.pollStage rung twin).reports ∧
      Twins id true
        (stage.behind (correlator.pollStage rung stage).answer)
        (twin.behind (correlator.pollStage rung twin).answer) := by
  cases twins with
  | ended outcome => exact ⟨rfl, rfl, .ended outcome⟩
  | early outcome deadline => exact ⟨rfl, rfl, .ended outcome⟩
  | waiting cell deadline =>
      let wait : Stage :=
        .waiting { id := id, cell := cell, deadline := deadline }
      let limited : Stage :=
        .limited { id := id, source := .waiting cell } deadline
      have waits : wait.IsFor id := rfl
      have limits : limited.IsFor id := rfl
      have same : correlator.pollStage rung wait =
          correlator.pollStage rung limited := by
        cases settled : correlator.cells.settlement? cell with
        | some settlement =>
            rw [correlator.pollStage_of_settled rung waits rfl settled,
              correlator.pollStage_of_settled rung limits rfl settled]
        | none =>
            -- An attached caller's unsettled cell has an owner.
            obtain ⟨record, found, owned, _⟩ :=
              sound.record_of_attached (attached rfl) settled
            have owns := Correlator.owns_of_find? found
            rw [owned] at owns
            rw [correlator.pollStage_of_unsettled rung waits rfl settled owns,
              correlator.pollStage_of_unsettled rung limits rfl settled owns]
            rfl
      change (correlator.pollStage rung wait).after = _ ∧
        (correlator.pollStage rung wait).reports = _ ∧
          Twins id true (wait.behind (correlator.pollStage rung wait).answer) _
      rw [same]
      refine ⟨rfl, rfl, ?_⟩
      cases (correlator.pollStage rung limited).answer with
      | none => exact .waiting cell deadline
      | some outcome => exact .ended outcome

end Stage.Twins

/-- Where the two ways start. -/
theorem Correlator.startWait_twins (correlator : Correlator) (now : Instant)
    (id : RequestId) {timeout : Nat} (nonzero : timeout ≠ 0) :
    ∃ stage,
      (correlator.startWait now id timeout).answer.stage? = some stage ∧
        stage.Twins id false
          (.limited (correlator.openHandle now id).answer
            (now + timeout)) := by
  simp only [startWait, if_neg nonzero, openHandle, Step.answer_map]
  cases (correlator.attach now id).answer with
  | resolved outcome => exact ⟨_, rfl, .early outcome _⟩
  | waiting cell => exact ⟨_, rfl, .waiting cell _⟩

namespace Session

/-- The session with another waiter in the place of one. -/
def replace (session : Session) (id : RequestId) (number : Nat)
    (waiter : Waiter) : Session :=
  session.setWaiters id ((session.waiters id).set number waiter)

/-- Two sessions that differ in how one waiter waits. -/
inductive Twins (id : RequestId) (number : Nat) (polled : Bool)
    (session : Session) : Session → Prop where
  | differ (origin : Option CellId) (stage twin : Stage) :
      (session.waiters id)[number]? = some ⟨origin, stage⟩ →
      stage.Twins id polled twin →
      Twins id number polled session
        (session.replace id number ⟨origin, twin⟩)

section Replacing

variable (session : Session) (id : RequestId) (number : Nat)

theorem waiters_replace (waiter : Waiter) (other : RequestId) :
    (session.replace id number waiter).waiters other =
      if other = id then (session.waiters id).set number waiter
      else session.waiters other := rfl

variable {session id number}

theorem getElem?_replace {other : RequestId} {place : Nat}
    (apart : ¬(other = id ∧ place = number)) (waiter : Waiter) :
    ((session.replace id number waiter).waiters other)[place]? =
      (session.waiters other)[place]? := by
  rw [waiters_replace]
  split
  · rename_i same
    subst same
    apply List.getElem?_set_ne
    exact fun equal => apart ⟨rfl, equal.symm⟩
  · rfl

theorem getElem?_replace_self {old : Waiter}
    (present : (session.waiters id)[number]? = some old) (waiter : Waiter) :
    ((session.replace id number waiter).waiters id)[number]? =
      some waiter := by
  obtain ⟨inside, _⟩ := List.getElem?_eq_some_iff.mp present
  rw [waiters_replace, if_pos rfl]
  exact List.getElem?_set_self inside

theorem replace_replace (first second : Waiter) :
    (session.replace id number first).replace id number second =
      session.replace id number second := by
  unfold replace setWaiters
  congr 1
  funext other
  split <;> simp_all

theorem replace_comm {other : RequestId} {place : Nat}
    (apart : ¬(other = id ∧ place = number)) (first second : Waiter) :
    (session.replace id number first).replace other place second =
      (session.replace other place second).replace id number first := by
  unfold replace setWaiters
  congr 1
  funext next
  by_cases same : other = id
  · subst same
    have places : place ≠ number := fun equal => apart ⟨rfl, equal⟩
    by_cases here : next = other
    · simp [here, List.set_comm _ _ places.symm]
    · simp [here]
  · by_cases here : next = other
    · simp [here, same]
    · simp [here, Ne.symm same]

theorem replace_enter {old : Waiter}
    (present : (session.waiters id)[number]? = some old) (waiter : Waiter)
    (other : RequestId) (new : Option Waiter) :
    (session.replace id number waiter).enter other new =
      (session.enter other new).replace id number waiter := by
  obtain ⟨inside, _⟩ := List.getElem?_eq_some_iff.mp present
  unfold enter replace setWaiters
  congr 1
  funext next
  by_cases same : other = id
  · subst same
    by_cases here : next = other
    · simp [here, List.set_append_left _ _ inside]
    · simp [here]
  · by_cases here : next = other
    · simp [here, same]
    · simp [here, Ne.symm same]

theorem after_poll {waiter : Waiter}
    (present : (session.waiters id)[number]? = some waiter) :
    (session.poll id number).after =
      Session.replace
        { session with
          correlator :=
            (session.correlator.pollStage session.rung waiter.stage).after }
        id number
        { waiter with
          stage := waiter.stage.behind
            (session.correlator.pollStage session.rung
              waiter.stage).answer } := by
  simp only [poll, present]
  rfl

theorem limit_of_present (session : Session) {origin : Option CellId}
    {stage : Stage} (present :
      (session.waiters id)[number]? = some ⟨origin, stage⟩)
    (unheld : ∀ handle, stage ≠ .holding handle) (timeout : Nat) :
    session.limit id number timeout =
      { answer := .nothing, after := session } := by
  unfold limit
  split
  · rename_i held handle found
    rw [present] at found
    cases found
    exact (unheld handle rfl).elim
  · rfl

end Replacing

/-! ## Steps of twins -/

namespace Twins

variable {id : RequestId} {number : Nat} {polled : Bool}
  {session twin : Session}

theorem correlator_eq (twins : Twins id number polled session twin) :
    twin.correlator = session.correlator := by
  cases twins with
  | differ => rfl

theorem getElem?_eq (twins : Twins id number polled session twin)
    {other : RequestId} {place : Nat}
    (apart : ¬(other = id ∧ place = number)) :
    (twin.waiters other)[place]? = (session.waiters other)[place]? := by
  cases twins with
  | differ => exact getElem?_replace apart _

theorem moved (twins : Twins id number polled session twin)
    (correlator : Correlator) (now rung : Instant) :
    Twins id number polled
      { session with correlator := correlator, now := now, rung := rung }
      { twin with correlator := correlator, now := now, rung := rung } := by
  cases twins with
  | differ origin stage other present stages =>
      exact .differ origin stage other present stages

theorem enter (twins : Twins id number polled session twin)
    (other : RequestId) (new : Option Waiter) :
    Twins id number polled (session.enter other new)
      (twin.enter other new) := by
  cases twins with
  | differ origin stage second present stages =>
      rw [replace_enter present]
      apply Twins.differ origin stage second _ stages
      obtain ⟨inside, _⟩ := List.getElem?_eq_some_iff.mp present
      by_cases same : id = other
      · subst same
        simpa [Session.enter, setWaiters, List.getElem?_append_left inside]
          using present
      · simpa [Session.enter, setWaiters, same] using present

theorem replace (twins : Twins id number polled session twin)
    {other : RequestId} {place : Nat}
    (apart : ¬(other = id ∧ place = number)) (waiter : Waiter) :
    Twins id number polled (session.replace other place waiter)
      (twin.replace other place waiter) := by
  cases twins with
  | differ origin stage second present stages =>
      rw [replace_comm apart]
      apply Twins.differ origin stage second _ stages
      rw [getElem?_replace]
      · exact present
      · rintro ⟨same, here⟩
        exact apart ⟨same.symm, here.symm⟩

/-- The step of a session and the step of its twin. -/
structure Step (id : RequestId) (number : Nat) (polled : Bool)
    (step twinStep : Switchboard.Step Session Answer) : Prop where
  reports : step.reports = twinStep.reports
  after : Twins id number polled step.after twinStep.after

theorem startWait (twins : Twins id number polled session twin)
    (other : RequestId) (timeout : Nat) :
    Step id number polled (session.startWait other timeout)
      (twin.startWait other timeout) := by
  constructor
  · cases twins with
    | differ => rfl
  · have attached := twins.moved
      (session.correlator.startWait session.now other timeout).after
      session.now session.rung
    have entered := attached.enter other
      ((session.correlator.startWait session.now other
          timeout).answer.stage?.map fun stage =>
        { origin := session.correlator.origin other, stage := stage })
    cases twins with
    | differ => exact entered

theorem openHandle (twins : Twins id number polled session twin)
    (other : RequestId) :
    Step id number polled (session.openHandle other)
      (twin.openHandle other) := by
  constructor
  · cases twins with
    | differ => rfl
  · have attached := twins.moved
      (session.correlator.openHandle session.now other).after session.now
      session.rung
    have entered := attached.enter other
      (some
        { origin := session.correlator.origin other
          stage := .holding
            (session.correlator.openHandle session.now other).answer })
    cases twins with
    | differ => exact entered

theorem limit (twins : Twins id number polled session twin)
    (other : RequestId) (place timeout : Nat) :
    Step id number polled (session.limit other place timeout)
      (twin.limit other place timeout) := by
  by_cases here : other = id ∧ place = number
  · obtain ⟨rfl, rfl⟩ := here
    cases twins with
    | differ origin stage second present stages =>
        have twinPresent := getElem?_replace_self present ⟨origin, second⟩
        -- Neither of the two can be given a deadline any more.
        rw [session.limit_of_present present (stages.ne_holding · |>.1),
          limit_of_present _ twinPresent (stages.ne_holding · |>.2)]
        exact ⟨rfl, .differ origin stage second present stages⟩
  · have same := twins.getElem?_eq here
    have now : twin.now = session.now := by
      cases twins with
      | differ => rfl
    cases found : (session.waiters other)[place]? with
    | none =>
        rw [found] at same
        simp only [Session.limit, found, same]
        exact ⟨rfl, twins⟩
    | some waiter =>
        obtain ⟨origin, stage⟩ := waiter
        rw [found] at same
        cases stage with
        | holding handle =>
            simp only [Session.limit, found, same, now]
            exact ⟨rfl, twins.replace here _⟩
        | _ =>
            simp only [Session.limit, found, same]
            exact ⟨rfl, twins⟩

private theorem poll_elsewhere (twins : Twins id number polled session twin)
    {other : RequestId} {place : Nat}
    (apart : ¬(other = id ∧ place = number)) :
    Step id number polled (session.poll other place)
      (twin.poll other place) := by
  have same := twins.getElem?_eq apart
  cases found : (session.waiters other)[place]? with
  | none =>
      rw [found] at same
      simp only [Session.poll, found, same]
      exact ⟨rfl, twins⟩
  | some waiter =>
      rw [found] at same
      have moved := twins.moved
        (session.correlator.pollStage session.rung waiter.stage).after
        session.now session.rung
      have replaced := moved.replace apart
        { waiter with
          stage := waiter.stage.behind
            (session.correlator.pollStage session.rung
              waiter.stage).answer }
      simp only [Session.poll, found, same]
      cases twins with
      | differ => exact ⟨rfl, replaced⟩

private theorem poll_here (twins : Twins id number polled session twin)
    (sound : session.Sound) :
    Step id number true (session.poll id number) (twin.poll id number) := by
  cases twins with
  | differ origin stage second present stages =>
      have waiterSound := sound.waiters (List.mem_of_getElem? present)
      have twinPresent := getElem?_replace_self present ⟨origin, second⟩
      obtain ⟨after, reports, behind⟩ :=
        stages.poll sound.correlator session.rung waiterSound.attached
      constructor
      · simp only [Session.poll, present, twinPresent]
        exact reports
      · rw [after_poll present, after_poll twinPresent]
        let last : Waiter :=
          { origin := origin
            stage := second.behind
              (session.correlator.pollStage session.rung second).answer }
        change Twins id number true _
          ((Session.replace { session with
              correlator :=
                (session.correlator.pollStage session.rung second).after }
            id number ⟨origin, second⟩).replace id number last)
        rw [replace_replace, ← replace_replace _ last, ← after]
        exact .differ origin _ _ (getElem?_replace_self present _) behind

theorem act (twins : Twins id number polled session twin)
    (sound : session.Sound) (action : Action) :
    Step id number (polled || action = .poll id number) (session.act action)
      (twin.act action) := by
  by_cases here : action = .poll id number
  · subst here
    simpa [Session.act] using twins.poll_here sound
  · simp only [here, decide_false, Bool.or_false]
    cases action with
    | wait other timeout => exact twins.startWait other timeout
    | waitDefault other =>
        have same := twins.correlator_eq
        simp only [Session.act, same]
        exact twins.startWait other _
    | openHandle other => exact twins.openHandle other
    | limit other place timeout => exact twins.limit other place timeout
    | poll other place =>
        apply twins.poll_elsewhere
        rintro ⟨rfl, rfl⟩
        exact here rfl
    | _ =>
        have moved := twins.moved
        cases twins with
        | differ => exact ⟨rfl, moved _ _ _⟩

theorem run (twins : Twins id number polled session twin)
    (sound : session.Sound) (actions : List Action) :
    Twins id number (polled || .poll id number ∈ actions)
      (session.run actions) (twin.run actions) := by
  induction actions generalizing polled session twin with
  | nil => simpa [Session.run] using twins
  | cons action rest induction =>
      have onward := induction (twins.act sound action).after
        (act_sound sound action)
      simpa [Session.run, Bool.or_assoc, eq_comm] using onward

end Twins

/-! ## The two ways -/

/-- The correlator behind each step of a run, with what the step reports. -/
def history (session : Session) :
    List Action → List (Correlator × List Report)
  | [] => []
  | action :: rest =>
      let step := session.act action
      (step.after.correlator, step.reports) :: step.after.history rest

/-- The outcome of a waiter who has ended. -/
def outcome? (session : Session) (id : RequestId) (number : Nat) :
    Option Outcome :=
  (session.waiters id)[number]?.bind fun waiter => waiter.stage.outcome?

variable {id : RequestId} {number : Nat} {polled : Bool}
  {session twin : Session}

theorem Twins.outcome?_eq (twins : Twins id number true session twin) :
    session.outcome? id number = twin.outcome? id number := by
  cases twins with
  | differ origin stage second present stages =>
      have twinPresent := getElem?_replace_self present ⟨origin, second⟩
      simp only [outcome?, present, twinPresent, Option.bind_some]
      exact stages.outcome?_eq

theorem Twins.history_eq (twins : Twins id number polled session twin)
    (sound : session.Sound) (actions : List Action) :
    session.history actions = twin.history actions := by
  induction actions generalizing polled session twin with
  | nil => rfl
  | cons action rest induction =>
      have step := twins.act sound action
      simp only [history, step.reports, step.after.correlator_eq]
      rw [induction step.after (act_sound sound action)]

theorem getElem?_enter_self (session : Session) (id : RequestId)
    (waiter : Waiter) :
    ((session.enter id (some waiter)).waiters id)[
      (session.waiters id).length]? = some waiter := by
  simp [enter, setWaiters]

theorem replace_enter_self (session : Session) (id : RequestId)
    (first second : Waiter) :
    (session.enter id (some first)).replace id (session.waiters id).length
        second =
      session.enter id (some second) := by
  unfold enter replace setWaiters
  congr 1
  funext other
  by_cases same : other = id
  · simp [same]
  · simp [same]

/-- The session in which a caller has attached to an id. -/
def attached (session : Session) (id : RequestId) : Session :=
  { session with
    correlator := (session.correlator.attach session.now id).after }

private theorem after_startWait
    (session : Session) (id : RequestId) {timeout : Nat}
    (nonzero : timeout ≠ 0) {stage : Stage}
    (started : (session.correlator.startWait session.now id
      timeout).answer.stage? = some stage) :
    (session.startWait id timeout).after =
      (session.attached id).enter id
        (some
          { origin := session.correlator.origin id, stage := stage }) := by
  have after : (session.correlator.startWait session.now id timeout).after =
      (session.correlator.attach session.now id).after := by
    simp [Correlator.startWait, nonzero]
  simp only [startWait, onCorrelator, Step.answer_lift, started,
    Step.after_lift, after, Option.map_some]
  rfl

private theorem after_limit_openHandle (session : Session) (id : RequestId)
    (timeout : Nat) :
    ((session.openHandle id).after.limit id (session.waiters id).length
        timeout).after =
      (session.attached id).enter id
        (some
          { origin := session.correlator.origin id
            stage := .limited
              (session.correlator.openHandle session.now id).answer
              (session.now + timeout) }) := by
  let holding : Waiter :=
    { origin := session.correlator.origin id
      stage := .holding
        (session.correlator.openHandle session.now id).answer }
  have opened : (session.openHandle id).after =
      (session.attached id).enter id (some holding) := rfl
  have present :
      (((session.attached id).enter id (some holding)).waiters id)[
        (session.waiters id).length]? = some holding :=
    (session.attached id).getElem?_enter_self id holding
  rw [opened, limit, present]
  exact (session.attached id).replace_enter_self id holding _

/-- Who starts a wait is the twin of one who opens a handle and at once gives
it the same deadline. -/
theorem startWait_twins (session : Session) (id : RequestId) {timeout : Nat}
    (nonzero : timeout ≠ 0) :
    (session.startWait id timeout).reports =
        (session.openHandle id).reports ∧
      Twins id (session.waiters id).length false
        (session.startWait id timeout).after
        ((session.openHandle id).after.limit id
          (session.waiters id).length timeout).after := by
  constructor
  · simp only [startWait, onCorrelator, Correlator.startWait, if_neg nonzero]
    rfl
  · obtain ⟨stage, started, stages⟩ :=
      session.correlator.startWait_twins session.now id nonzero
    let waits : Waiter :=
      { origin := session.correlator.origin id, stage := stage }
    have present := (session.attached id).getElem?_enter_self id waits
    have differ := Twins.differ _ stage _ present stages
    rw [replace_enter_self] at differ
    rw [session.after_startWait id nonzero started,
      session.after_limit_openHandle id timeout]
    exact differ

/-- The two ways of waiting agree, whatever the state in which they start and
whatever comes after.  All maps and tallies are the same behind every step, and
so is all that is reported; and from the first poll on, so is the outcome. -/
theorem two_ways_agree (defaultTimeout maxRecordAge : Nat)
    (before : List Action) (id : RequestId) {timeout : Nat}
    (nonzero : timeout ≠ 0) :
    let session := (start defaultTimeout maxRecordAge).run before
    let number := (session.waiters id).length
    let waits := session.act (.wait id timeout)
    let opens := session.act (.openHandle id)
    let limits := opens.after.act (.limit id number timeout)
    waits.after.correlator = limits.after.correlator ∧
      waits.reports = opens.reports ++ limits.reports ∧
      ∀ actions : List Action,
        waits.after.history actions = limits.after.history actions ∧
          (.poll id number ∈ actions →
            (waits.after.run actions).outcome? id number =
              (limits.after.run actions).outcome? id number) := by
  intro session number waits opens limits
  have sound : waits.after.Sound :=
    act_sound (run_sound (sound_start _ _) before) _
  obtain ⟨reports, twins⟩ := session.startWait_twins id nonzero
  refine ⟨twins.correlator_eq.symm, ?_, fun actions =>
    ⟨twins.history_eq sound actions, fun polled => ?_⟩⟩
  · have quiet : limits.reports = [] := by
      simp only [limits, act, limit]
      split <;> rfl
    rw [quiet, List.append_nil]
    exact reports
  · have onward := twins.run sound actions
    simp only [number] at polled
    simp only [polled, decide_true, Bool.or_true] at onward
    exact onward.outcome?_eq

/-- Both ways give a reply that comes with the deadline, before the poll. -/
theorem two_ways_agree_at_deadline :
    let session := (start 5000 300000).run [.openHandle 7]
    let waits := (session.act (.wait 7 10)).after
    let limits := session.run [.openHandle 7, .limit 7 1 10]
    let actions : List Action :=
      [.poll 7 1, .advance 10, .ring, .complete 7 "x", .poll 7 1]
    waits.history actions = limits.history actions ∧
      (waits.run actions).outcome? 7 1 = some (.completed "x") ∧
      (limits.run actions).outcome? 7 1 = some (.completed "x") := by
  intro session waits limits actions
  have nonzero : 10 ≠ 0 := by decide
  have agree :=
    (two_ways_agree 5000 300000 [.openHandle 7] 7 nonzero).2.2 actions
  have outcome : (waits.run actions).outcome? 7 1 =
      some (.completed "x") := by
    decide
  exact ⟨agree.1, outcome, (agree.2 (by decide)).symm.trans outcome⟩

end Session

end Switchboard
