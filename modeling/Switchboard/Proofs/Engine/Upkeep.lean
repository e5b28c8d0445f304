import Mathlib.Data.List.Infix
import Switchboard.Engine.Reaper
import Switchboard.Proofs.Correlator.Ages

/-!
# The reaper keeps the map small

A session is tended by a reaper, whose turns come between the other steps in
any order.  To the session a turn is a sweep by the clock or nothing, so what is
known of punctual runs holds of a session that is tended by a punctual reaper.
A reaper is punctual if it begins at once and each of its sweeps comes when it
is due.
-/

namespace Switchboard

namespace Reaper

/-- Whether a reaper sweeps in its turn.  It is open to it to heed a signal
first. -/
def sweeps (reaper : Reaper) (heeds : Bool) (rung : Instant)
    (signal : Signal) : Bool :=
  match reaper.phase with
  | .waiting due => !(heeds && reaper.isSignalled signal) && due ≤ rung
  | _ => false

def turn (reaper : Reaper) (heeds : Bool) (now rung : Instant)
    (signal : Signal) (correlator : Correlator) : Step Correlator Reaper :=
  match reaper.phase with
  | .created => reaper.begin now correlator
  | .waiting due =>
      if heeds && reaper.isSignalled signal then
        reaper.heed signal correlator
      else if due ≤ rung then
        reaper.sweep due now correlator
      else
        { answer := reaper, after := correlator }
  | .stopped => { answer := reaper, after := correlator }

variable (reaper : Reaper) (heeds : Bool) (now rung : Instant)
  (signal : Signal) (correlator : Correlator)

/-- The steps of a reaper are turns. -/
theorem exists_turn_of_step {step : Step Correlator Reaper}
    (steps : reaper.step now rung signal correlator = some step) :
    ∃ heeds, reaper.turn heeds now rung signal correlator = step := by
  unfold Reaper.step at steps
  unfold turn
  cases phase : reaper.phase with
  | created =>
      simp only [phase, Option.some.injEq] at steps
      exact ⟨false, steps⟩
  | waiting due =>
      simp only [phase] at steps
      by_cases late : due ≤ rung
      · refine ⟨false, ?_⟩
        simpa [late] using steps
      · refine ⟨true, ?_⟩
        cases signalled : reaper.isSignalled signal with
        | true => simpa [late, signalled] using steps
        | false => simp [late, signalled] at steps
  | stopped => simp [phase] at steps

theorem after_turn :
    (reaper.turn heeds now rung signal correlator).after =
      if reaper.sweeps heeds rung signal then
        (correlator.sweep now).after
      else
        correlator := by
  unfold turn sweeps
  cases reaper.phase with
  | created =>
      simp only [begin]
      split <;> rfl
  | waiting due =>
      cases heedful : heeds && reaper.isSignalled signal with
      | true =>
          simp only [if_true, heed]
          split <;> rfl
      | false =>
          by_cases late : due ≤ rung
          · simp [late, sweep, Step.after_map]
          · simp [late]
  | stopped => rfl

theorem interval_turn :
    (reaper.turn heeds now rung signal correlator).answer.interval =
      reaper.interval := by
  unfold turn
  split
  · unfold begin
    split <;> rfl
  · split
    · unfold heed
      split <;> rfl
    · split <;> rfl
  · rfl

theorem nextDue_le {interval due now : Nat} (late : due ≤ now) :
    nextDue interval due now ≤ now + interval := by
  unfold nextDue
  split
  · exact Nat.sub_le _ _
  · exact Nat.add_le_add_right late interval

/-- A sweep is due within an interval of the turn that set its time, which is
the first turn of the reaper or a sweep. -/
theorem due_of_turn {due : Instant} (ordered : rung ≤ now)
    (waits : (reaper.turn heeds now rung signal correlator).answer.phase =
      .waiting due) :
    (reaper.phase = .created ∨ reaper.sweeps heeds rung signal = true) ∧
        due ≤ now + reaper.interval ∨
      reaper.phase = .waiting due ∧
        reaper.sweeps heeds rung signal = false := by
  unfold turn at waits
  unfold sweeps
  cases phase : reaper.phase with
  | created =>
      simp only [phase, begin] at waits
      split at waits
      · cases waits
      · cases waits
        exact .inl ⟨.inl rfl, Nat.le_refl _⟩
  | waiting last =>
      simp only [phase] at waits
      cases heedful : heeds && reaper.isSignalled signal with
      | true =>
          simp only [heedful, if_true, heed] at waits
          split at waits
          · cases waits
          · have same : last = due := by
              simpa [phase] using waits
            exact .inr ⟨by rw [same], by simp⟩
      | false =>
          by_cases late : last ≤ rung
          · have next : nextDue reaper.interval last now = due := by
              simpa [heedful, late, sweep, Step.map] using waits
            have bound : due ≤ now + reaper.interval := by
              rw [← next]
              exact nextDue_le (Nat.le_trans late ordered)
            exact .inl ⟨.inr (by simp [late]), bound⟩
          · have same : last = due := by
              simpa [heedful, late, phase] using waits
            exact .inr ⟨by rw [same], by simp [late]⟩
  | stopped =>
      simp only [phase] at waits
      cases waits

end Reaper

/-- A session and the reaper that sweeps its correlator. -/
structure Tended where
  session : Session
  reaper : Reaper

namespace Tended

inductive Action where
  | session (action : Session.Action)
  /-- The reaper takes its turn. -/
  | reap (heeds : Bool) (signal : Signal)

/-- A new correlator at time zero, with a reaper that has not begun. -/
def start (defaultTimeout maxRecordAge interval seen : Nat) : Tended where
  session := .start defaultTimeout maxRecordAge
  reaper := { interval := interval, seen := seen }

def act (tended : Tended) : Action → Tended
  | .session action =>
      { tended with session := (tended.session.act action).after }
  | .reap heeds signal =>
      let turned :=
        tended.reaper.turn heeds tended.session.now tended.session.rung signal
          tended.session.correlator
      { session := { tended.session with correlator := turned.after }
        reaper := turned.answer }

def run (tended : Tended) : List Action → Tended
  | [] => tended
  | action :: rest => (tended.act action).run rest

/-- What a step is to the session. -/
def share? (tended : Tended) : Action → Option Session.Action
  | .session action => some action
  | .reap heeds signal =>
      if tended.reaper.sweeps heeds tended.session.rung signal then
        some (.sweep tended.session.now)
      else
        none

/-- What a run is to the session. -/
def trace (tended : Tended) : List Action → List Session.Action
  | [] => []
  | action :: rest =>
      (tended.share? action).toList ++ (tended.act action).trace rest

/-- Whether the reaper keeps its times.  It is to begin at once, and each of
its sweeps is to come before the clock moves on. -/
def OnTime (tended : Tended) (begun : Instant) : Prop :=
  match tended.reaper.phase with
  | .created => tended.session.now = begun
  | .waiting due => tended.session.now ≤ due
  | .stopped => False

instance (tended : Tended) (begun : Instant) :
    Decidable (tended.OnTime begun) :=
  match phase : tended.reaper.phase with
  | .created =>
      decidable_of_iff (tended.session.now = begun) (by simp [OnTime, phase])
  | .waiting due =>
      decidable_of_iff (tended.session.now ≤ due) (by simp [OnTime, phase])
  | .stopped => isFalse (by simp [OnTime, phase])

theorem session_act (tended : Tended) (action : Action) :
    (tended.act action).session =
      tended.session.run (tended.share? action).toList := by
  cases action with
  | session action => rfl
  | reap heeds signal =>
      simp only [act, share?, Reaper.after_turn]
      split <;> rfl

theorem session_run (tended : Tended) (actions : List Action) :
    (tended.run actions).session =
      tended.session.run (tended.trace actions) := by
  induction actions generalizing tended with
  | nil => rfl
  | cons action rest induction =>
      rw [run, induction, session_act, trace, Session.run_append]

theorem run_append (tended : Tended) (first second : List Action) :
    tended.run (first ++ second) = (tended.run first).run second := by
  induction first generalizing tended with
  | nil => rfl
  | cons action rest induction => exact induction (tended.act action)

theorem trace_append (tended : Tended) (first second : List Action) :
    tended.trace (first ++ second) =
      tended.trace first ++ (tended.run first).trace second := by
  induction first generalizing tended with
  | nil => rfl
  | cons action rest induction =>
      rw [List.cons_append, trace, trace, run, induction, List.append_assoc]

theorem trace_isPrefix {tended : Tended} {earlier actions : List Action}
    (inside : earlier <+: actions) :
    tended.trace earlier <+: tended.trace actions := by
  obtain ⟨later, rfl⟩ := inside
  rw [trace_append]
  exact List.prefix_append _ _

theorem trace_snoc (tended : Tended) (actions : List Action)
    (action : Action) :
    tended.trace (actions ++ [action]) =
      tended.trace actions ++ ((tended.run actions).share? action).toList := by
  rw [trace_append, trace, trace, List.append_nil]

theorem interval_run (tended : Tended) (actions : List Action) :
    (tended.run actions).reaper.interval = tended.reaper.interval := by
  induction actions generalizing tended with
  | nil => rfl
  | cons action rest induction =>
      rw [run, induction]
      cases action with
      | session action => rfl
      | reap heeds signal => exact Reaper.interval_turn ..

/-! ## Sweeping on time -/

/-- The next sweep of a reaper is due within an interval of the last one. -/
def Paced (tended : Tended) (actions : List Action) : Prop :=
  ∀ due, (tended.run actions).reaper.phase = .waiting due →
    due ≤ tended.session.lastSweep (tended.trace actions) +
      tended.reaper.interval

theorem Paced.snoc {tended : Tended}
    (ordered : tended.session.rung ≤ tended.session.now)
    {actions : List Action} (paced : tended.Paced actions)
    (onTime : (tended.run actions).OnTime tended.session.now)
    (action : Action) : tended.Paced (actions ++ [action]) := by
  intro due waits
  rw [run_append] at waits
  rw [trace_snoc]
  cases action with
  | session action =>
      have bound := paced due waits
      exact Nat.le_trans bound
        (Nat.add_le_add_right (Session.lastSweep_le_snoc ..) _)
  | reap heeds signal =>
      have timed :
          (tended.run actions).session.rung ≤
            (tended.run actions).session.now := by
        rw [session_run]
        exact Session.rung_le_now_run ordered _
      rcases Reaper.due_of_turn _ _ _ _ _ _ timed waits with
        ⟨created | sweeps, bound⟩ | ⟨waiting, idle⟩
      · rw [interval_run] at bound
        have now : (tended.run actions).session.now = tended.session.now := by
          simpa [OnTime, created] using onTime
        have idle : (tended.run actions).reaper.sweeps heeds
            (tended.run actions).session.rung signal = false := by
          simp [Reaper.sweeps, created]
        simp only [share?, idle, Option.toList]
        rw [now] at bound
        exact Nat.le_trans bound
          (Nat.add_le_add_right (Session.now_le_lastSweep ..) _)
      · have shared : (tended.run actions).share? (.reap heeds signal) =
            some (.sweep (tended.run actions).session.now) := by
          simp [share?, sweeps]
        rw [interval_run, session_run] at bound
        rw [shared, session_run, Option.toList, Session.lastSweep_snoc,
          if_pos rfl]
        exact bound
      · simp only [share?, idle, Option.toList]
        simpa using paced due waiting

/-- A reaper that keeps its times makes a punctual run. -/
theorem punctual_of_onTime {tended : Tended}
    (created : tended.reaper.phase = .created)
    (ordered : tended.session.rung ≤ tended.session.now)
    {actions : List Action}
    (onTime : ∀ earlier, earlier <+: actions →
      (tended.run earlier).OnTime tended.session.now) :
    tended.session.Punctual tended.reaper.interval (tended.trace actions) ∧
      tended.Paced actions := by
  induction actions using List.reverseRecOn with
  | nil =>
      constructor
      · simp [trace, Session.punctual_iff_isChain, Session.sweepTimes,
          Session.lastSweep, Session.run]
      · intro due waits
        rw [run, created] at waits
        cases waits
  | append_singleton actions action induction =>
      obtain ⟨punctual, paced⟩ := induction fun earlier inside =>
        onTime earlier (inside.trans (List.prefix_append _ _))
      have pacedNow := paced.snoc ordered
        (onTime actions (List.prefix_append _ _)) action
      refine ⟨?_, pacedNow⟩
      have now :
          (tended.session.run (tended.trace (actions ++ [action]))).now ≤
            tended.session.lastSweep (tended.trace (actions ++ [action])) +
              tended.reaper.interval := by
        have here := onTime _ (List.prefix_refl _)
        rw [← session_run]
        unfold OnTime at here
        split at here
        · rw [here]
          exact Nat.le_trans (Session.now_le_lastSweep ..)
            (Nat.le_add_right _ _)
        · rename_i due waits
          exact Nat.le_trans here (pacedNow due waits)
        · exact here.elim
      rw [trace_snoc] at now ⊢
      cases shared : (tended.run actions).share? action with
      | none => simpa using punctual
      | some own =>
          rw [shared] at now
          exact (Session.punctual_snoc ..).mpr ⟨punctual, now⟩

/-- While sweeps come at most one interval apart, no record is older than the
age bound and one interval, and none stays beyond one interval once it is no
longer pending.  A reaper that keeps its times sees to such sweeps. -/
theorem ages_bounded (defaultTimeout maxRecordAge interval seen : Nat)
    (actions : List Action) :
    let begun := start defaultTimeout maxRecordAge interval seen
    let trace := begun.trace actions
    ((∀ earlier, earlier <+: actions →
        (begun.run earlier).OnTime begun.session.now) →
      begun.session.Punctual interval trace) ∧
    (begun.session.Punctual interval trace →
      ∀ earlier, earlier <+: actions →
        ∀ id record,
          (id, record) ∈ (begun.run earlier).session.correlator.records →
            let now := (begun.run earlier).session.now
            record.age now ≤ maxRecordAge + interval ∧
              (record.state ≠ .pending →
                ∃ time, now ≤ time + interval ∧
                  begun.session.Turned (begun.trace earlier) id record
                    time)) := by
  intro begun trace
  have sound : begun.session.Sound :=
    Session.sound_start defaultTimeout maxRecordAge
  constructor
  · intro onTime
    exact (punctual_of_onTime rfl (Nat.le_refl _) onTime).1
  · intro punctual earlier inside id record stored
    have reached : (begun.session.run (begun.trace earlier)).Sound :=
      Session.run_sound sound _
    rw [session_run] at stored ⊢
    have found := Records.find?_of_mem reached.correlator.keyed stored
    have recent := Session.recent_of_find? sound rfl _ found
    exact recent.bounded
      ((Session.punctual_iff ..).mp punctual _ (trace_isPrefix inside))

/-- Both bounds are reached.  Here a sweep finds two records that are just not
over age; one of them gets its reply right behind the sweep, and the next sweep
is about to come. -/
theorem ages_bounded_reached :
    let begun := start 5 2 2 0
    let early : List Action :=
      [.reap false {}, .session (.openHandle 6), .session (.openHandle 7),
        .session (.advance 2), .session .ring, .reap false {}]
    let actions : List Action :=
      early ++ [.session (.complete 7 "x"), .session (.advance 2)]
    (begun.run early).session.now = 2 ∧
      (begun.run actions).session.now = 4 ∧
      (begun.run actions).session.correlator.records.map
          (fun entry => (entry.1, entry.2.age 4, entry.2.state)) =
        [(6, 4, .pending), (7, 4, .completed)] ∧
      ∀ id record,
        (id, record) ∈ (begun.run actions).session.correlator.records →
          record.age 4 ≤ 2 + 2 ∧
            (record.state ≠ .pending →
              ∃ time, 4 ≤ time + 2 ∧
                begun.session.Turned (begun.trace actions) id record
                  time) := by
  intro begun early actions
  have onTime : ∀ earlier, earlier <+: actions →
      (begun.run earlier).OnTime begun.session.now := by
    intro earlier inside
    have all : ∀ part ∈ actions.inits,
        (begun.run part).OnTime begun.session.now := by
      decide
    exact all earlier ((List.mem_inits earlier actions).mpr inside)
  have bounded := ages_bounded 5 2 2 0 actions
  exact ⟨by decide, by decide, by decide,
    bounded.2 (bounded.1 onTime) actions (List.prefix_refl actions)⟩

end Tended

end Switchboard
