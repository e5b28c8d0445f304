import Switchboard.Proofs.Engine.Service

/-!
# What the steps of a service amount to

The operations that others see as one step are runs of the smallest ones: a
shutdown, taking on a notification or a frame, the steps of a drain and of a
reaper, and what a listener of the connection does.  So what holds behind every
run holds whenever they are used.
-/

namespace Switchboard

namespace Service

/-- Some run leads from one service to another. -/
def Reaches (before after : Service) : Prop :=
  ∃ actions, before.run actions = after

theorem Reaches.refl (service : Service) : service.Reaches service :=
  ⟨[], rfl⟩

theorem Reaches.trans {first second third : Service}
    (before : first.Reaches second) (after : second.Reaches third) :
    first.Reaches third := by
  obtain ⟨actions, rfl⟩ := before
  obtain ⟨more, rfl⟩ := after
  exact ⟨actions ++ more, first.run_append actions more⟩

/-- The deeds of a shutdown with nothing between them are the part of it that
comes before both tasks have ended. -/
theorem run_shutdown (service : Service) :
    service.run Action.shutdown =
      { service with engine := service.engine.beginShutdown.after } := rfl

/-! ## What producers, listeners of the connection and reapers do -/

/-- A notification is taken on by a push and, if that is accepted, a
wake-up. -/
theorem reaches_enqueue (service : Service) (raw : String) :
    service.Reaches
      (service.setDispatcher (service.dispatcher.enqueue raw).after) := by
  rw [Dispatcher.after_enqueue]
  cases accepted : (service.dispatcher.push raw).answer with
  | true =>
      refine ⟨[.push raw, .notify], ?_⟩
      simp only [run, act, accepted, if_true]
      rfl
  | false =>
      refine ⟨[.push raw], ?_⟩
      simp only [run, act, accepted]
      rfl

theorem reaches_close (service : Service) :
    service.Reaches
      (service.setDispatcher service.dispatcher.close.after) := by
  rw [Dispatcher.after_close]
  exact ⟨[.clear, .notifyAll], rfl⟩

theorem reaches_route (service : Service) (raw : String) :
    service.Reaches
      (service.setHub (service.hub.route service.now raw).after) := by
  unfold Hub.route
  split
  · rename_i id _
    exact ⟨[.correlate (.complete id raw)], rfl⟩
  · exact service.reaches_enqueue raw
  · exact .refl service

/-- A program that runs outside the drain does what others can do. -/
theorem reaches_perform (service : Service) (program : Program) :
    service.Reaches
      (service.setHub
        (service.hub.perform service.now program).after) := by
  induction program generalizing service with
  | finish => exact .refl service
  | fail failure => exact .refl service
  | note hearing next induction => exact induction service
  | listen slot listener next _ induction =>
      have listens : service.Reaches
          (service.act (.listen slot (some listener))) :=
        ⟨[.listen slot (some listener)], rfl⟩
      exact listens.trans (induction _)
  | unlisten slot next induction =>
      have unlistens : service.Reaches (service.act (.listen slot none)) :=
        ⟨[.listen slot none], rfl⟩
      exact unlistens.trans (induction _)
  | enqueue raw next induction =>
      exact (service.reaches_enqueue raw).trans (induction _ _)
  | complete id payload next induction =>
      have completes : service.Reaches
          (service.act (.correlate (.complete id payload))) :=
        ⟨[.correlate (.complete id payload)], rfl⟩
      exact completes.trans (induction _ _)
  | cancel id next induction =>
      have cancels : service.Reaches
          (service.act (.correlate (.cancel id))) :=
        ⟨[.correlate (.cancel id)], rfl⟩
      exact cancels.trans (induction _ _)
  | close next induction =>
      exact service.reaches_close.trans (induction _ _)

theorem reaches_connectionChanged (service : Service) (connected : Bool) :
    service.Reaches
      (service.setHub
        (service.hub.connectionChanged service.now connected).after) := by
  unfold Hub.connectionChanged
  dsimp only
  split
  · exact .refl service
  · dsimp only
    rw [(Hub.invoke_eq _ _ _ _ _).1]
    exact service.reaches_perform _

private theorem after_reaperStep {reaper : Reaper} {now rung : Instant}
    {signal : Signal} {correlator : Correlator}
    {step : Step Correlator Reaper}
    (next : reaper.step now rung signal correlator = some step) :
    step.after = correlator ∨ step.after = (correlator.sweep now).after := by
  unfold Reaper.step at next
  split at next
  · cases next
    refine .inl ?_
    unfold Reaper.begin
    split <;> rfl
  · split at next
    · cases next
      exact .inr rfl
    · split at next
      · cases next
        refine .inl ?_
        unfold Reaper.heed
        split <;> rfl
      · cases next
  · cases next

theorem reaches_reaperStep {service : Service} {reaper : Reaper}
    {signal : Signal} {step : Step Correlator Reaper}
    (next :
      reaper.step service.now service.rung signal service.hub.correlator =
        some step) :
    service.Reaches
      (service.setHub { service.hub with correlator := step.after }) := by
  rcases after_reaperStep next with unchanged | swept
  · rw [unchanged]
    exact .refl service
  · rw [swept]
    exact ⟨[.correlate (.sweep service.now)], rfl⟩

/-! ## What a drain does -/

/-- The turns of the drain lead from one service to another. -/
def Leads (heeds : Bool) (before after : Service) : Prop :=
  ∃ count, before.run (List.replicate count (.drain heeds)) = after

theorem Leads.refl (heeds : Bool) (service : Service) :
    Leads heeds service service :=
  ⟨0, rfl⟩

theorem Leads.step {heeds : Bool} {before after : Service}
    (leads : Leads heeds (before.act (.drain heeds)) after) :
    Leads heeds before after := by
  obtain ⟨count, reached⟩ := leads
  exact ⟨count + 1, reached⟩

theorem Leads.trans {heeds : Bool} {first second third : Service}
    (before : Leads heeds first second) (after : Leads heeds second third) :
    Leads heeds first third := by
  obtain ⟨count, rfl⟩ := before
  obtain ⟨more, rfl⟩ := after
  refine ⟨count + more, ?_⟩
  rw [List.replicate_add, run_append]

theorem Leads.deed {service after : Service} {drain : Drain} {heeds : Bool}
    {hub : Hub} {performance : Performance}
    (present : service.drain = some drain)
    (going : performance.ended? = none)
    (leads : Leads heeds
      (service.during (hub.deed service.now performance).2
        (hub.deed service.now performance).1) after) :
    Leads heeds (service.during hub performance) after := by
  apply Leads.step
  have turned :
      (service.during hub performance).act (.drain heeds) =
        service.during (hub.deed service.now performance).2
          (hub.deed service.now performance).1 := by
    simp only [act, during, turn, setHub, present, going]
    rfl
  rw [turned]
  exact leads

private theorem leads_enqueue {service : Service} {drain : Drain}
    (present : service.drain = some drain) (heeds : Bool) (hub : Hub)
    (raw : String) (next : Bool → Program) :
    let enqueued := hub.onDispatcher (·.enqueue raw)
    Leads heeds (service.during hub (.ready (.enqueue raw next)))
      (service.during enqueued.after (.ready (next enqueued.answer))) := by
  intro enqueued
  have answered : enqueued.answer = (hub.dispatcher.push raw).answer :=
    hub.dispatcher.answer_enqueue raw
  have behind :
      enqueued.after =
        hub.setDispatcher (hub.dispatcher.enqueue raw).after := rfl
  rw [Dispatcher.after_enqueue] at behind
  apply Leads.deed present rfl
  cases accepted : (hub.dispatcher.push raw).answer with
  | true =>
      rw [hub.deed_enqueue_of_accepted service.now next accepted, answered,
        behind, accepted]
      exact .deed present rfl (.refl heeds _)
  | false =>
      rw [hub.deed_enqueue_of_refused service.now next accepted, answered,
        behind, accepted]
      exact .refl heeds _

/-- The deeds of a listener make up its program. -/
theorem leads_perform {service : Service} {drain : Drain}
    (present : service.drain = some drain) (heeds : Bool)
    (program : Program) (hub : Hub) :
    ∃ ending : Performance,
      ending.ended? =
          some (hub.perform service.now program).answer.isNone ∧
        Leads heeds (service.during hub (.ready program))
          (service.during (hub.perform service.now program).after ending) := by
  induction program generalizing hub with
  | finish => exact ⟨.ready .finish, rfl, .refl heeds _⟩
  | fail failure => exact ⟨.ready (.fail failure), rfl, .refl heeds _⟩
  | note hearing next induction =>
      obtain ⟨ending, ended, leads⟩ := induction hub
      exact ⟨ending, ended, .deed present rfl leads⟩
  | listen slot listener next _ induction =>
      obtain ⟨ending, ended, leads⟩ :=
        induction (hub.setListener slot (some listener))
      exact ⟨ending, ended, .deed present rfl leads⟩
  | unlisten slot next induction =>
      obtain ⟨ending, ended, leads⟩ := induction (hub.setListener slot none)
      exact ⟨ending, ended, .deed present rfl leads⟩
  | enqueue raw next induction =>
      let enqueued := hub.onDispatcher (·.enqueue raw)
      obtain ⟨ending, ended, leads⟩ :=
        induction enqueued.answer enqueued.after
      exact ⟨ending, ended,
        (leads_enqueue present heeds hub raw next).trans leads⟩
  | complete id payload next induction =>
      let completed :=
        hub.onCorrelator (·.complete service.now id payload)
      obtain ⟨ending, ended, leads⟩ :=
        induction completed.answer completed.after
      exact ⟨ending, ended, .deed present rfl leads⟩
  | cancel id next induction =>
      let cancelled := hub.onCorrelator (·.cancel id)
      obtain ⟨ending, ended, leads⟩ :=
        induction cancelled.answer cancelled.after
      exact ⟨ending, ended, .deed present rfl leads⟩
  | close next induction =>
      let closed := hub.onDispatcher (·.close)
      obtain ⟨ending, ended, leads⟩ := induction closed.answer closed.after
      exact ⟨ending, ended, .deed present rfl (.deed present rfl leads)⟩

private theorem Leads.ended {service : Service} {drain : Drain} {heeds : Bool}
    (present : service.drain = some drain) (idle : service.call = none)
    (hub : Hub) {ending : Performance} {finished : Bool}
    (ended : ending.ended? = some finished) :
    Leads heeds (service.during hub ending)
      ((service.setHub hub).setDrain (drain.tally finished)) := by
  refine .step ?_
  have turned :
      (service.during hub ending).act (.drain heeds) =
        (service.setHub hub).setDrain (drain.tally finished) := by
    simp only [act, during, turn, setHub, present, ended, setDrain, ← idle]
  rw [turned]
  exact .refl heeds _

/-- A turn that takes a notification out of the batch, and the call that may
follow, dispatch it. -/
theorem leads_dispatch {service : Service} {drain : Drain}
    (attended : service.drain = some drain) (idle : service.call = none)
    (heeds : Bool) {raw : String} {rest : List String}
    {size delivered : Nat}
    (batch : drain.phase = .dispatching (raw :: rest) size delivered) :
    Leads heeds service
      (service.advance
        ((service.hub.dispatch service.now raw).map fun finished =>
          drain.enter
            (.dispatching rest size
              (if finished then delivered + 1 else delivered)))) := by
  let begun :=
    service.setDrain (drain.enter (.dispatching rest size delivered))
  have present : begun.drain =
      some (drain.enter (.dispatching rest size delivered)) := rfl
  obtain ⟨after, answer⟩ :=
    Prod.mk.inj (service.hub.dispatch_eq service.now raw)
  simp only [advance, Step.after_map, Step.answer_map, after, answer]
  refine .step ?_
  simp only [act, turn, attended, idle, batch]
  cases service.hub.call? raw with
  | none =>
      simp only [Option.map_none, ← idle]
      exact .refl heeds _
  | some call =>
      obtain ⟨ending, ended, performed⟩ :=
        leads_perform present heeds call.program service.hub
      exact performed.trans (.ended present idle _ ended)

/-- The turns of the drain make up its steps. -/
theorem leads_step {service : Service} {drain : Drain}
    (present : service.drain = some drain) (idle : service.call = none)
    {step : Step Hub Drain}
    (next :
      drain.step service.now service.engine.signal service.hub = some step) :
    ∃ heeds, Leads heeds service (service.advance step) := by
  have turned : ∀ heeds, service.turn heeds drain = service.advance step →
      Leads heeds service (service.advance step) := by
    intro heeds equal
    refine .step ?_
    simp only [act, present, equal]
    exact .refl heeds _
  cases phase : drain.phase with
  | created =>
      simp only [Drain.step, phase] at next
      cases next
      exact ⟨false, turned false (by simp only [turn, idle, phase]; rfl)⟩
  | taking =>
      simp only [Drain.step, phase] at next
      cases next
      exact ⟨false, turned false (by simp only [turn, idle, phase])⟩
  | dispatching batch size delivered =>
      cases batch with
      | nil =>
          simp only [Drain.step, phase] at next
          cases next
          exact ⟨false, turned false (by simp only [turn, idle, phase]; rfl)⟩
      | cons raw rest =>
          simp only [Drain.step, phase] at next
          cases next
          exact ⟨false, leads_dispatch present idle false phase⟩
  | parking =>
      simp only [Drain.step, phase] at next
      cases next
      exact ⟨false, turned false (by simp [turn, idle, phase])⟩
  | parked =>
      simp only [Drain.step, phase] at next
      split at next
      · rename_i woken
        cases next
        exact ⟨false, turned false (by simp [turn, idle, phase, woken])⟩
      · split at next
        · rename_i signalled
          cases next
          exact ⟨true, turned true (by simp [turn, idle, phase, signalled])⟩
        · cases next
  | stopped => simp [Drain.step, phase] at next

end Service

end Switchboard
