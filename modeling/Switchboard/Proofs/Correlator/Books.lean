import Switchboard.Proofs.Correlator.Balance

/-!
# The books of a session

The counters that a run leaves behind are an exact ledger of it.  They are
compared with what can be seen of the run itself: what its calls answered, which
records each step removed from the map, and what it decided about records.
-/

namespace Switchboard

namespace Session

/-- What a run measures, in order. -/
def measured (session : Session) : List Action → List Measurement
  | [] => []
  | action :: rest =>
      measurements (session.act action).reports ++
        (session.act action).after.measured rest

/-- The counters of a recorder that was new when the run began. -/
def counters (session : Session) (actions : List Action) : Counters :=
  .after (session.measured actions)

/-- The sum over the steps of a run. -/
def sumOver (count : Session → Action → Nat) (session : Session) :
    List Action → Nat
  | [] => 0
  | action :: rest =>
      count session action + sumOver count (session.act action).after rest

/-- The records that a step removes from the map. -/
def removed (session : Session) (action : Action) : Records :=
  session.correlator.lost (session.act action).after.correlator

/-- One for a reply that is taken, or that is not. -/
def replies (taken : Bool) (session : Session) : Action → Nat
  | .complete id payload =>
      if (session.act (.complete id payload)).answer = .flag taken then 1
      else 0
  | _ => 0

/-- One for a cancellation that goes through. -/
def cancellations (session : Session) : Action → Nat
  | .cancel id =>
      if (session.act (.cancel id)).answer = .flag true then 1 else 0
  | _ => 0

/-- The pending records that a sweep or a shutdown lets go. -/
def letGo (session : Session) : Action → Nat
  | .sweep time =>
      Records.countIn .pending (session.removed (.sweep time))
  | .shutDown => Records.countIn .pending (session.removed .shutDown)
  | _ => 0

/-- Whether a step is one of a waiter, drops the completed records or shuts
the correlator down. -/
def Action.collects : Action → Bool
  | .wait _ _ => true
  | .waitDefault _ => true
  | .openHandle _ => true
  | .limit _ _ _ => true
  | .poll _ _ => true
  | .dropCompleted => true
  | .shutDown => true
  | _ => false

/-- A step about an id is a reply, a cancellation, or one of a waiter. -/
theorem Action.cases_of_about {action : Action} {id : RequestId}
    (about : action.id? = some id) :
    (∃ payload, action = .complete id payload) ∨ action = .cancel id ∨
      action.collects = true := by
  cases action with
  | complete own payload =>
      cases about
      exact .inl ⟨payload, rfl⟩
  | cancel own =>
      cases about
      exact .inr (.inl rfl)
  | advance millis => cases about
  | ring => cases about
  | sweep time => cases about
  | _ => exact .inr (.inr rfl)

/-- The records that such a step removes. -/
def collected (session : Session) (action : Action) : Nat :=
  if action.collects then (session.removed action).length else 0

/-- The cells of the records that timed out, in order. -/
def lapses (ledger : List Ruling) : List CellId :=
  (ledger.filter fun ruling => ruling.2 = .timedOut).map Prod.fst

theorem startWait_measures (session : Session) (id : RequestId)
    (timeout : Nat) :
    Correlator.Measures id session.correlator
      (session.startWait id timeout).after.correlator 0
      (session.startWait id timeout).reports := by
  rw [correlator_startWait]
  simp only [startWait, onCorrelator, Step.reports_lift]
  unfold Correlator.startWait
  split
  · exact Correlator.measures_nothing rfl (Correlator.crossing_self _ _)
  · exact session.correlator.attach_measures session.now id

theorem pollStage_measures {correlator : Correlator}
    (sound : correlator.Sound) (rung : Instant) {stage : Stage}
    {id : RequestId} (mine : stage.IsFor id)
    (attached : ∀ {cell : CellId},
      stage.cell? = some cell → correlator.Attached id cell) :
    Correlator.Measures id correlator
      (correlator.pollStage rung stage).after 0
      (correlator.pollStage rung stage).reports := by
  have idle := Correlator.crossing_self correlator id
  cases waits : stage.cell? with
  | none =>
      obtain ⟨outcome, known⟩ := Stage.known?_of_cell?_eq_none waits
      cases ended : stage.isEnded with
      | false =>
          rw [correlator.pollStage_of_known rung ended known]
          exact Correlator.measures_nothing rfl idle
      | true =>
          cases stage with
          | ended outcome => exact Correlator.measures_nothing rfl idle
          | _ => cases ended
  | some cell =>
      cases settled : correlator.cells.settlement? cell with
      | some settlement =>
          rw [correlator.pollStage_of_settled rung mine waits settled]
          exact correlator.collect_measures id settlement
      | none =>
          obtain ⟨record, found, owned, _⟩ :=
            sound.record_of_attached (attached waits) settled
          rw [correlator.pollStage_of_unsettled rung mine waits settled
            (owned ▸ Correlator.owns_of_find? found)]
          split
          · exact correlator.expire_measures id
          · exact Correlator.measures_nothing rfl idle

theorem poll_measures {session : Session} (sound : session.Sound)
    (id : RequestId) (number : Nat) :
    Correlator.Measures id session.correlator
      (session.poll id number).after.correlator 0
      (session.poll id number).reports := by
  cases present : (session.waiters id)[number]? with
  | none =>
      simp only [poll, present]
      exact Correlator.measures_nothing rfl (Correlator.crossing_self _ _)
  | some waiter =>
      have waiterSound := sound.waiters (List.mem_of_getElem? present)
      rw [session.correlator_poll present]
      simp only [poll, present, onCorrelator, Step.reports_lift]
      exact pollStage_measures sound.correlator session.rung
        waiterSound.mine waiterSound.attached

/-- A step about an id measures what crosses there, and a reply that is
refused while the correlator is open. -/
theorem act_measures {session : Session} (sound : session.Sound)
    {action : Action} {id : RequestId} (about : action.id? = some id) :
    Correlator.Measures id session.correlator
      (session.act action).after.correlator
      (if session.correlator.closed then 0
        else session.replies false action)
      (session.act action).reports := by
  cases action with
  | wait own timeout =>
      cases about
      simp only [replies, ite_self]
      exact session.startWait_measures id timeout
  | waitDefault own =>
      cases about
      simp only [replies, ite_self]
      exact session.startWait_measures id _
  | openHandle own =>
      cases about
      simp only [replies, ite_self]
      exact session.correlator.attach_measures session.now id
  | limit own number timeout =>
      cases about
      have silent :
          measurements (session.limit id number timeout).reports = [] := by
        unfold limit
        split <;> rfl
      simp only [act, correlator_limit, replies, ite_self]
      exact Correlator.measures_nothing silent (Correlator.crossing_self _ _)
  | poll own number =>
      cases about
      simp only [replies, ite_self]
      exact poll_measures sound id number
  | complete own payload =>
      cases about
      have late :
          (if session.correlator.closed then 0
            else session.replies false (.complete id payload)) =
          if session.correlator.closed ||
              (session.correlator.complete session.now id payload).answer
            then 0 else 1 := by
        cases session.correlator.closed <;>
          cases answer :
            (session.correlator.complete session.now id payload).answer <;>
          simp [replies, act, onCorrelator, answer]
      rw [late]
      exact session.correlator.complete_measures session.now id payload
  | cancel own =>
      cases about
      simp only [replies, ite_self]
      exact session.correlator.cancel_measures id
  | dropCompleted => cases about
  | sweep time => cases about
  | shutDown => cases about
  | advance millis => cases about
  | ring => cases about

/-- What one step adds to the totals, beside what it does to the map, what it
answers and what it decides. -/
structure Books (session : Session) (action : Action)
    (added : Metric → Nat) : Prop where
  pending :
    Records.countIn .pending (session.act action).after.correlator.records +
        (added .completed + added .timedOut + added .cancelled) +
        session.letGo action =
      Records.countIn .pending session.correlator.records +
        added .registered
  held :
    (session.act action).after.correlator.count +
        (added .cancelled + added .reaped) + session.collected action =
      session.correlator.count + added .registered
  completed : added .completed = session.replies true action
  late : added .lateReply =
    if session.correlator.closed then 0 else session.replies false action
  cancelled : added .cancelled = session.cancellations action
  timedOut : added .timedOut =
    (lapses (session.ruling? action).toList).length

/-- What a step measures. -/
def added (session : Session) (action : Action) (metric : Metric) : Nat :=
  total metric (measurements (session.act action).reports)

theorem removed_of_aboutAll {session : Session} (sound : session.Sound)
    {action : Action} (aboutAll : action.id? = none) :
    session.removed action =
      session.correlator.records.filter fun entry =>
        !session.keeps action entry.2 :=
  (act_clears sound aboutAll).lost_eq sound.correlator

/-- A sweep measures how many records it removes, and how many are left. -/
theorem measurements_sweep (correlator : Correlator) (now : Instant) :
    measurements (correlator.sweep now).reports =
      [.reaped (correlator.sweep now).answer,
        .inFlight (correlator.sweep now).after.count] := by
  have silent : ∀ records : List Record,
      measurements (records.map fun record =>
        .logged (.reaping record.id record.state (record.age now))) = [] := by
    intro records
    simp [measurements, Report.measurement?]
  simp only [Correlator.sweep, measurements_append, silent,
    measurements_measured, measurements_nil, List.nil_append]
  split <;> rfl

/-- A step about all ids measures at most what a sweep removes. -/
theorem added_of_aboutAll {session : Session} {action : Action}
    (aboutAll : action.id? = none) {metric : Metric}
    (kept : metric ≠ .reaped) : session.added action metric = 0 := by
  cases action with
  | dropCompleted =>
      simp only [added, act, onCorrelator, Step.reports_map,
        Step.reports_lift, Correlator.dropCompleted]
      split <;> rfl
  | sweep time =>
      simp [added, act, onCorrelator, measurements_sweep,
        Measurement.amount, Measurement.metric?, kept.symm]
  | shutDown => cases metric <;> rfl
  | advance millis => rfl
  | ring => rfl
  | _ => cases aboutAll

theorem letGo_of_aboutAll {session : Session} (sound : session.Sound)
    {action : Action} (aboutAll : action.id? = none) :
    session.letGo action =
      Records.countIn .pending (session.removed action) := by
  have removed := removed_of_aboutAll sound aboutAll
  cases action with
  | sweep time => rfl
  | shutDown => rfl
  | dropCompleted =>
      symm
      apply List.countP_eq_zero.mpr
      intro entry member
      rw [removed] at member
      have completed := (List.mem_filter.mp member).2
      simp only [keeps, ne_eq, decide_not, Bool.not_not,
        decide_eq_true_eq] at completed
      simp [completed]
  | advance millis => simp [removed, keeps, letGo, Records.countIn]
  | ring => simp [removed, keeps, letGo, Records.countIn]
  | _ => cases aboutAll

theorem length_removed_of_aboutAll {session : Session}
    (sound : session.Sound) {action : Action}
    (aboutAll : action.id? = none) :
    session.added action .reaped + session.collected action =
      (session.removed action).length := by
  have removed := removed_of_aboutAll sound aboutAll
  cases action with
  | sweep time =>
      have uncollected : session.collected (.sweep time) = 0 := rfl
      have swept : (session.act (.sweep time)).reports =
          (session.correlator.sweep time).reports := rfl
      have reaped : (session.correlator.sweep time).answer =
          (session.removed (.sweep time)).length := by
        rw [removed]
        rfl
      rw [added, swept, measurements_sweep, uncollected, Nat.add_zero,
        ← reaped]
      exact Nat.add_zero _
  | dropCompleted =>
      have collected : session.collected .dropCompleted =
          (session.removed .dropCompleted).length := rfl
      have silent : session.added .dropCompleted .reaped = 0 := by
        simp only [added, act, onCorrelator, Step.reports_map,
          Step.reports_lift, Correlator.dropCompleted]
        split <;> rfl
      rw [silent, collected, Nat.zero_add]
  | shutDown =>
      have collected : session.collected .shutDown =
          (session.removed .shutDown).length := rfl
      have silent : session.added .shutDown .reaped = 0 := rfl
      rw [silent, collected, Nat.zero_add]
  | advance millis =>
      rw [removed, List.filter_eq_nil_iff.mpr fun entry _ => by simp [keeps]]
      rfl
  | ring =>
      rw [removed, List.filter_eq_nil_iff.mpr fun entry _ => by simp [keeps]]
      rfl
  | _ => cases aboutAll

theorem replies_of_other (session : Session) (taken : Bool)
    {action : Action}
    (other : action.id? = none ∨ action.collects = true) :
    session.replies taken action = 0 := by
  cases action with
  | complete id payload => rcases other with aboutAll | collects <;> contradiction
  | _ => rfl

theorem cancellations_of_other (session : Session) {action : Action}
    (other : action.id? = none ∨ action.collects = true) :
    session.cancellations action = 0 := by
  cases action with
  | cancel id => rcases other with aboutAll | collects <;> contradiction
  | _ => rfl

theorem books_of_aboutAll {session : Session} (sound : session.Sound)
    {action : Action} (aboutAll : action.id? = none) :
    session.Books action (session.added action) := by
  have clears := act_clears sound aboutAll
  have pending := clears.pending_balance sound.correlator
  have held := clears.count_balance sound.correlator
  have letGo := letGo_of_aboutAll sound aboutAll
  have removed := length_removed_of_aboutAll sound aboutAll
  have quiet := fun metric =>
    @added_of_aboutAll session action aboutAll metric
  rw [← Session.removed] at pending held
  constructor
  · simp [quiet, letGo, pending]
  · simp only [quiet .cancelled (by decide), quiet .registered (by decide)]
    omega
  · rw [quiet .completed (by decide),
      session.replies_of_other true (.inl aboutAll)]
  · rw [quiet .lateReply (by decide),
      session.replies_of_other false (.inl aboutAll), ite_self]
  · rw [quiet .cancelled (by decide),
      session.cancellations_of_other (.inl aboutAll)]
  · rw [quiet .timedOut (by decide), session.ruling?_of_aboutAll aboutAll]
    rfl

/-- What a step decides, whichever record it is about. -/
def decision? (session : Session) (action : Action) : Option Decision :=
  (session.ruling? action).map Prod.snd

theorem decision?_complete (session : Session) (id : RequestId)
    (payload : String) :
    session.decision? (.complete id payload) =
      if (session.act (.complete id payload)).answer = .flag true then
        some (.completed payload)
      else
        none := by
  rcases session.correlator.complete_cases session.now id payload with
    ⟨taken, record, found⟩ | ⟨refused, _⟩
  · simp [decision?, ruling?, Correlator.replyRuling, act, onCorrelator,
      taken, found]
  · simp [decision?, ruling?, Correlator.replyRuling, act, onCorrelator,
      refused]

theorem decision?_cancel (session : Session) (id : RequestId) :
    session.decision? (.cancel id) =
      if (session.act (.cancel id)).answer = .flag true then
        some .cancelled
      else
        none := by
  rcases session.correlator.cancel_cases id with
    ⟨cancelled, record, found⟩ | ⟨refused, _⟩
  · simp [decision?, ruling?, Correlator.cancelRuling, act, onCorrelator,
      cancelled, found]
  · simp [decision?, ruling?, Correlator.cancelRuling, act, onCorrelator,
      refused]

/-- The steps of waiters decide nothing but deadlines. -/
theorem decision?_of_collects (session : Session) {action : Action}
    (collects : action.collects = true) :
    session.decision? action = none ∨
      session.decision? action = some .timedOut := by
  cases action with
  | poll own number =>
      simp only [decision?, ruling?, Correlator.lapseRuling]
      split
      · cases Records.find? own session.correlator.records with
        | none => exact .inl rfl
        | some record => exact .inr rfl
      · exact .inl rfl
  | complete own payload => cases collects
  | cancel own => cases collects
  | _ => exact .inl rfl

/-- Of what a step about an id decides, one is measured. -/
theorem added_of_about {session : Session} (sound : session.Sound)
    {action : Action} {id : RequestId} (about : action.id? = some id)
    {metric : Metric} (later : metric ≠ .registered)
    (inTime : metric ≠ .lateReply) :
    session.added action metric =
      if (session.decision? action).map Decision.metric = some metric then 1
      else 0 := by
  have shifts := (act_touches sound about).shifts sound.correlator
  rw [added, act_measures sound about metric, if_neg inTime, Nat.add_zero]
  exact shifts.crossed_eq later

theorem added_completed {session : Session} (sound : session.Sound)
    {action : Action} {id : RequestId} (about : action.id? = some id) :
    session.added action .completed = session.replies true action := by
  rw [added_of_about sound about (by decide) (by decide)]
  rcases Action.cases_of_about about with
    ⟨payload, rfl⟩ | rfl | collects
  · rw [decision?_complete]
    by_cases taken :
        (session.act (.complete id payload)).answer = .flag true <;>
      simp [replies, taken, Decision.metric]
  · rw [decision?_cancel]
    split <;> simp [replies, Decision.metric]
  · rw [session.replies_of_other true (.inr collects)]
    rcases session.decision?_of_collects collects with none | timedOut
    · simp [none]
    · simp [timedOut, Decision.metric]

theorem added_cancelled {session : Session} (sound : session.Sound)
    {action : Action} {id : RequestId} (about : action.id? = some id) :
    session.added action .cancelled = session.cancellations action := by
  rw [added_of_about sound about (by decide) (by decide)]
  rcases Action.cases_of_about about with
    ⟨payload, rfl⟩ | rfl | collects
  · rw [decision?_complete]
    split <;> simp [cancellations, Decision.metric]
  · rw [decision?_cancel]
    by_cases cancelled :
        (session.act (.cancel id)).answer = .flag true <;>
      simp [cancellations, cancelled, Decision.metric]
  · rw [session.cancellations_of_other (.inr collects)]
    rcases session.decision?_of_collects collects with none | timedOut
    · simp [none]
    · simp [timedOut, Decision.metric]

private theorem length_lapses_ruling? (session : Session) (action : Action) :
    (lapses (session.ruling? action).toList).length =
      if session.decision? action = some .timedOut then 1 else 0 := by
  cases ruled : session.ruling? action with
  | none => simp [lapses, decision?, ruled]
  | some ruling =>
      by_cases timedOut : ruling.2 = .timedOut <;>
        simp [lapses, decision?, ruled, timedOut]

private theorem added_timedOut {session : Session} (sound : session.Sound)
    {action : Action} {id : RequestId} (about : action.id? = some id) :
    session.added action .timedOut =
      (lapses (session.ruling? action).toList).length := by
  rw [added_of_about sound about (by decide) (by decide),
    length_lapses_ruling?]
  cases session.decision? action with
  | none => rfl
  | some decision => cases decision <;> simp [Decision.metric]

private theorem length_removed_of_about
    {session : Session} (sound : session.Sound)
    {action : Action} {id : RequestId} (about : action.id? = some id) :
    (session.removed action).length =
      session.added action .cancelled + session.collected action := by
  have shifts := (act_touches sound about).shifts sound.correlator
  have crossed : session.added action .cancelled =
      session.correlator.crossed (session.act action).after.correlator id
        .cancelled := by
    rw [added, act_measures sound about .cancelled]
    rfl
  rcases Action.cases_of_about about with
    ⟨payload, rfl⟩ | rfl | collects
  · rw [crossed]
    refine shifts.lost_eq_crossed fun undecided => ?_
    rcases session.correlator.complete_cases session.now id payload with
      ⟨taken, _⟩ | ⟨_, same⟩
    · rw [← decision?, decision?_complete] at undecided
      simp [act, onCorrelator, taken] at undecided
    · exact same
  · rw [crossed]
    refine shifts.lost_eq_crossed fun undecided => ?_
    rcases session.correlator.cancel_cases id with
      ⟨cancelled, _⟩ | ⟨_, same⟩
    · rw [← decision?, decision?_cancel] at undecided
      simp [act, onCorrelator, cancelled] at undecided
    · exact same
  · rw [added_cancelled sound about,
      session.cancellations_of_other (.inr collects), collected,
      if_pos collects, Nat.zero_add]

private theorem books_of_about {session : Session} (sound : session.Sound)
    {action : Action} {id : RequestId} (about : action.id? = some id) :
    session.Books action (session.added action) := by
  have touches := act_touches sound about
  have measures := act_measures sound about
  have shifts := touches.shifts sound.correlator
  have recounts := touches.recounts sound.correlator.keyed
  have crossed : ∀ {metric : Metric}, metric ≠ .lateReply →
      session.added action metric =
        session.correlator.crossed (session.act action).after.correlator id
          metric := by
    intro metric inTime
    rw [added, measures metric, if_neg inTime, Nat.add_zero]
  have unrelated : ∀ metric : Metric, metric ≠ .registered →
      (∀ decision : Decision, decision.metric ≠ metric) →
      session.correlator.crossed (session.act action).after.correlator id
        metric = 0 :=
    fun _ later undecided => shifts.crossed_eq_zero later undecided
  constructor
  · have quiet : session.letGo action = 0 := by
      cases action <;> first | rfl | cases about
    rw [crossed (by decide), crossed (by decide), crossed (by decide),
      crossed (by decide), quiet]
    exact shifts.pending_balance recounts
  · have held := shifts.count_balance recounts
    have removed := length_removed_of_about sound about
    have unreaped : session.added action .reaped = 0 := by
      rw [crossed (by decide)]
      exact unrelated .reaped (by decide) fun decision => by
        cases decision <;> simp [Decision.metric]
    rw [← Session.removed, removed, ← crossed (by decide)] at held
    omega
  · exact added_completed sound about
  · have uncrossed := unrelated .lateReply (by decide)
      fun decision => by cases decision <;> simp [Decision.metric]
    rw [added, measures .lateReply, uncrossed, if_pos rfl, Nat.zero_add]
  · exact added_cancelled sound about
  · exact added_timedOut sound about

theorem act_books {session : Session} (sound : session.Sound)
    (action : Action) : session.Books action (session.added action) := by
  cases about : action.id? with
  | none => exact books_of_aboutAll sound about
  | some id => exact books_of_about sound about

theorem total_measured_cons (session : Session) (action : Action)
    (rest : List Action) (metric : Metric) :
    total metric (session.measured (action :: rest)) =
      session.added action metric +
        total metric ((session.act action).after.measured rest) := by
  rw [measured, total_append, added]

/-- The pending records of the map and the books behind a run. -/
theorem run_pending {session : Session} (sound : session.Sound)
    (actions : List Action) :
    let sum := fun metric => total metric (session.measured actions)
    Records.countIn .pending (session.run actions).correlator.records +
        (sum .completed + sum .timedOut + sum .cancelled) +
        session.sumOver letGo actions =
      Records.countIn .pending session.correlator.records +
        sum .registered := by
  induction actions generalizing session with
  | nil => simp [run, measured, sumOver]
  | cons action rest induction =>
      have step := (act_books sound action).pending
      have later := induction (act_sound sound action)
      simp only [total_measured_cons, sumOver, run] at later ⊢
      omega

theorem run_held {session : Session} (sound : session.Sound)
    (actions : List Action) :
    let sum := fun metric => total metric (session.measured actions)
    (session.run actions).correlator.count +
        (sum .cancelled + sum .reaped) +
        session.sumOver collected actions =
      session.correlator.count + sum .registered := by
  induction actions generalizing session with
  | nil => simp [run, measured, sumOver]
  | cons action rest induction =>
      have step := (act_books sound action).held
      have later := induction (act_sound sound action)
      simp only [total_measured_cons, sumOver, run] at later ⊢
      omega

theorem total_measured {metric : Metric} {count : Session → Action → Nat}
    (each : ∀ {session : Session}, session.Sound → ∀ action,
      session.added action metric = count session action)
    {session : Session} (sound : session.Sound) (actions : List Action) :
    total metric (session.measured actions) =
      session.sumOver count actions := by
  induction actions generalizing session with
  | nil => rfl
  | cons action rest induction =>
      rw [total_measured_cons, sumOver, each sound action,
        induction (act_sound sound action)]

theorem length_lapses_rulings (session : Session) (actions : List Action) :
    (lapses (session.rulings actions)).length =
      session.sumOver
        (fun session action =>
          (lapses (session.ruling? action).toList).length) actions := by
  induction actions generalizing session with
  | nil => rfl
  | cons action rest induction =>
      rw [sumOver, ← induction]
      simp [rulings, lapses]

private theorem total_lateReply_of_closed {session : Session}
    (sound : session.Sound) (closed : session.correlator.closed = true)
    (actions : List Action) :
    total .lateReply (session.measured actions) = 0 := by
  induction actions generalizing session with
  | nil => rfl
  | cons action rest induction =>
      have still := closed_act_eq sound action
      rw [closed, Bool.true_or] at still
      rw [total_measured_cons, (act_books sound action).late, if_pos closed,
        induction (act_sound sound action) still]

/-- The replies that are late are those refused before the shutdown. -/
theorem total_lateReply {session : Session} (sound : session.Sound)
    (opened : session.correlator.closed = false) (actions : List Action) :
    total .lateReply (session.measured actions) =
      session.sumOver (replies false)
        (actions.takeWhile (· ≠ .shutDown)) := by
  induction actions generalizing session with
  | nil => rfl
  | cons action rest induction =>
      have behind := closed_act_eq sound action
      rw [opened, Bool.false_or] at behind
      rw [total_measured_cons, (act_books sound action).late, opened]
      by_cases shuts : action = .shutDown
      · subst shuts
        rw [total_lateReply_of_closed (act_sound sound .shutDown) behind]
        rfl
      · rw [decide_eq_false shuts] at behind
        rw [induction (act_sound sound action) behind,
          List.takeWhile_cons_of_pos (by simpa using shuts), sumOver]
        rfl

theorem nodup_lapses {ledger : List Ruling}
    (once : ∀ cell, (decisionsOn cell ledger).length ≤ 1) :
    (lapses ledger).Nodup := by
  have cells : (ledger.map Prod.fst).Nodup := by
    apply List.nodup_iff_count_le_one.mpr
    intro cell
    have count : (ledger.map Prod.fst).count cell =
        (decisionsOn cell ledger).length := by
      simp only [decisionsOn, List.length_map, List.count,
        List.countP_map, ← List.countP_eq_length_filter]
      congr 1
    rw [count]
    exact once cell
  exact cells.sublist (List.Sublist.map _ List.filter_sublist)

/-- Every registered record is pending, completed, timed out, cancelled or let
go while it was pending; and it is in the map or was taken out of it in one of
the ways that are counted. -/
theorem metrics_are_an_exact_ledger (defaultTimeout maxRecordAge : Nat)
    (actions : List Action)
    (registrations :
      total .registered
        ((start defaultTimeout maxRecordAge).measured actions) <
          UInt64.size)
    (lateReplies :
      total .lateReply
        ((start defaultTimeout maxRecordAge).measured actions) <
          UInt64.size) :
    let begun := start defaultTimeout maxRecordAge
    let correlator := (begun.run actions).correlator
    let counters := begun.counters actions
    let lapsed := lapses (begun.rulings actions)
    counters.registered.toNat =
      correlator.pending.toNat + counters.completed.toNat +
        counters.timedOut.toNat + counters.cancelled.toNat +
        begun.sumOver letGo actions ∧
    counters.registered.toNat =
      correlator.count + counters.cancelled.toNat + counters.reaped.toNat +
        begun.sumOver collected actions ∧
    counters.completed.toNat = begun.sumOver (replies true) actions ∧
    counters.lateReplies.toNat =
      begun.sumOver (replies false)
        (actions.takeWhile (· ≠ .shutDown)) ∧
    counters.cancelled.toNat = begun.sumOver cancellations actions ∧
    counters.timedOut.toNat = lapsed.length ∧ lapsed.Nodup := by
  intro begun correlator counters lapsed
  have begunSound := sound_start defaultTimeout maxRecordAge
  have counted : correlator.Counted :=
    run_counted begunSound (counted_start _ _) actions
  have consistent : (begun.run actions).Consistent (begun.rulings actions) :=
    run_consistent begunSound (consistent_start _ _) actions
  let sum := fun metric => total metric (begun.measured actions)
  have pendingBalance :
      Records.countIn .pending correlator.records +
          (sum .completed + sum .timedOut + sum .cancelled) +
          begun.sumOver letGo actions = sum .registered := by
    rw [run_pending begunSound actions]
    exact Nat.zero_add _
  have heldBalance :
      correlator.count + (sum .cancelled + sum .reaped) +
          begun.sumOver collected actions = sum .registered := by
    rw [run_held begunSound actions]
    exact Nat.zero_add _
  have registered : sum .registered < UInt64.size := registrations
  have exact : ∀ metric, sum metric < UInt64.size →
      (counters.get metric).toNat = sum metric :=
    fun _ bounded => Counters.toNat_get_after bounded
  have tally : correlator.pending.toNat =
      Records.countIn .pending correlator.records := by
    have word : correlator.pending =
        UInt64.ofNat (Records.countIn .pending correlator.records) := by
      apply counted
      rfl
    rw [word]
    apply UInt64.toNat_ofNat_of_lt
    omega
  have all : counters.registered.toNat = sum .registered :=
    exact .registered registered
  have completed : counters.completed.toNat = sum .completed :=
    exact .completed (by omega)
  have timedOut : counters.timedOut.toNat = sum .timedOut :=
    exact .timedOut (by omega)
  have cancelled : counters.cancelled.toNat = sum .cancelled :=
    exact .cancelled (by omega)
  have reaped : counters.reaped.toNat = sum .reaped :=
    exact .reaped (by omega)
  have late : counters.lateReplies.toNat = sum .lateReply :=
    exact .lateReply lateReplies
  refine ⟨by omega, by omega, ?_, ?_, ?_, ?_, ?_⟩
  · rw [completed]
    exact total_measured (fun sound action => (act_books sound action).completed)
      begunSound actions
  · rw [late]
    exact total_lateReply begunSound rfl actions
  · rw [cancelled]
    exact total_measured (fun sound action => (act_books sound action).cancelled)
      begunSound actions
  · rw [timedOut, length_lapses_rulings]
    exact total_measured (fun sound action => (act_books sound action).timedOut)
      begunSound actions
  · exact nodup_lapses fun cell => (consistent.fits.tells cell).length_le

/-- Two waiters time out on one record, which is reaped; one record is
completed and cleared, one cancelled, one swept while it is pending, and one
let go by the shutdown. -/
theorem ledger_of_five_records :
    let begun := start 5000 300000
    let actions : List Action :=
      [.wait 1 10, .wait 1 20, .advance 30, .ring, .poll 1 0, .poll 1 1,
        .openHandle 2, .complete 2 "reply", .complete 2 "again",
        .openHandle 3, .cancel 3, .dropCompleted, .openHandle 4,
        .sweep 400000, .openHandle 5, .shutDown, .complete 5 "last"]
    let counters := begun.counters actions
    total .registered (begun.measured actions) < UInt64.size ∧
      total .lateReply (begun.measured actions) < UInt64.size ∧
      counters.registered.toNat = 5 ∧
      counters.timedOut.toNat = 1 ∧
      counters.lateReplies.toNat = 1 ∧
      counters.registered.toNat =
        (begun.run actions).correlator.pending.toNat +
          counters.completed.toNat + counters.timedOut.toNat +
          counters.cancelled.toNat + begun.sumOver letGo actions ∧
      begun.sumOver letGo actions = 2 := by
  intro begun actions counters
  have registrations :
      total .registered (begun.measured actions) < UInt64.size := by decide
  have lateReplies :
      total .lateReply (begun.measured actions) < UInt64.size := by decide
  obtain ⟨balance, -⟩ :=
    metrics_are_an_exact_ledger 5000 300000 actions registrations lateReplies
  have registered : counters.registered.toNat = 5 := by decide
  have letGo : begun.sumOver letGo actions = 2 := by decide
  have timedOut : counters.timedOut.toNat = 1 := by decide
  have late : counters.lateReplies.toNat = 1 := by decide
  clear_value actions
  exact ⟨registrations, lateReplies, registered, timedOut, late, balance,
    letGo⟩

end Session

end Switchboard
