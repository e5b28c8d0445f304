import Switchboard.Proofs.Dispatcher.Deeds

/-!
# Listeners that falter

A listener may do all that another one does and yet fail at the end, where the
other one finishes.  A hub does not show the difference to anyone: neither the
correlator nor the queue keeps track of how a listener ended, and all deeds
but the ends are the same.  What is measured differs only where a call counts
as failed instead of dispatched.
-/

namespace Switchboard

/-- Another program that does the same deeds and fails wherever this one does,
but may also fail where this one finishes.  This is so of the listeners that it
puts into slots, too. -/
inductive Program.FaltersAs : Program → Program → Prop where
  | finished : FaltersAs .finish .finish
  | faltered (failure : Failure) : FaltersAs .finish (.fail failure)
  | failed (failure other : Failure) : FaltersAs (.fail failure) (.fail other)
  | note (hearing : Hearing) {next other : Program} :
      FaltersAs next other →
      FaltersAs (.note hearing next) (.note hearing other)
  | listen (slot : Slot) {listener second : Listener}
      {next other : Program} :
      (∀ invocation,
        FaltersAs (listener invocation) (second invocation)) →
      FaltersAs next other →
      FaltersAs (.listen slot listener next) (.listen slot second other)
  | unlisten (slot : Slot) {next other : Program} :
      FaltersAs next other →
      FaltersAs (.unlisten slot next) (.unlisten slot other)
  | enqueue (raw : String) {next other : Bool → Program} :
      (∀ accepted, FaltersAs (next accepted) (other accepted)) →
      FaltersAs (.enqueue raw next) (.enqueue raw other)
  | complete (id : RequestId) (payload : String)
      {next other : Bool → Program} :
      (∀ accepted, FaltersAs (next accepted) (other accepted)) →
      FaltersAs (.complete id payload next) (.complete id payload other)
  | cancel (id : RequestId) {next other : Bool → Program} :
      (∀ cancelled, FaltersAs (next cancelled) (other cancelled)) →
      FaltersAs (.cancel id next) (.cancel id other)
  | close {next other : Nat → Program} :
      (∀ discarded, FaltersAs (next discarded) (other discarded)) →
      FaltersAs (.close next) (.close other)

namespace Program

theorem FaltersAs.refl (program : Program) : program.FaltersAs program := by
  induction program with
  | finish => exact .finished
  | fail failure => exact .failed failure failure
  | note hearing next induction => exact .note hearing induction
  | listen slot listener next listeners induction =>
      exact .listen slot listeners induction
  | unlisten slot next induction => exact .unlisten slot induction
  | enqueue raw next induction => exact .enqueue raw induction
  | complete id payload next induction => exact .complete id payload induction
  | cancel id next induction => exact .cancel id induction
  | close next induction => exact .close induction

/-- The same deeds, but a failure at the end. -/
def faltering : Program → Program
  | .finish => .fail .untold
  | .fail failure => .fail failure
  | .note hearing next => .note hearing next.faltering
  | .listen slot listener next => .listen slot listener next.faltering
  | .unlisten slot next => .unlisten slot next.faltering
  | .enqueue raw next => .enqueue raw fun accepted => (next accepted).faltering
  | .complete id payload next =>
      .complete id payload fun accepted => (next accepted).faltering
  | .cancel id next => .cancel id fun cancelled => (next cancelled).faltering
  | .close next => .close fun discarded => (next discarded).faltering

theorem faltersAs_faltering (program : Program) :
    program.FaltersAs program.faltering := by
  induction program with
  | finish => exact .faltered .untold
  | fail failure => exact .failed failure failure
  | note hearing next induction => exact .note hearing induction
  | listen slot listener next _ induction =>
      exact .listen slot (fun invocation => .refl (listener invocation))
        induction
  | unlisten slot next induction => exact .unlisten slot induction
  | enqueue raw next induction => exact .enqueue raw induction
  | complete id payload next induction => exact .complete id payload induction
  | cancel id next induction => exact .cancel id induction
  | close next induction => exact .close induction

end Program

/-- A listener all of whose programs do. -/
def Listener.FaltersAs (listener other : Listener) : Prop :=
  ∀ invocation, Program.FaltersAs (listener invocation) (other invocation)

/-- The same listener, but every call fails at its end. -/
def Listener.faltering (listener : Listener) : Listener :=
  fun invocation => (listener invocation).faltering

/-- The same slots are taken, by listeners that falter. -/
def Listeners.FaltersAs (listeners others : Listeners) : Prop :=
  ∀ slot,
    Option.Rel Listener.FaltersAs (listeners.get slot) (others.get slot)

theorem Listeners.FaltersAs.set {listeners others : Listeners}
    (related : listeners.FaltersAs others) (slot : Slot)
    {listener other : Option Listener}
    (inSlot : Option.Rel Listener.FaltersAs listener other) :
    (listeners.set slot listener).FaltersAs (others.set slot other) := by
  intro place
  by_cases same : place = slot
  · subst same
    rw [Listeners.get_set_self, Listeners.get_set_self]
    exact inSlot
  · rw [Listeners.get_set_of_ne _ same, Listeners.get_set_of_ne _ same]
    exact related place

theorem Listeners.FaltersAs.refl (listeners : Listeners) :
    listeners.FaltersAs listeners := by
  intro slot
  cases listeners.get slot with
  | none => exact .none
  | some listener => exact .some fun invocation => .refl (listener invocation)

/-- The same slots are taken, but every call fails at its end. -/
def Listeners.faltering (listeners : Listeners) : Listeners where
  dial := listeners.dial.map Listener.faltering
  lifecycle := listeners.lifecycle.map Listener.faltering
  stateChange := listeners.stateChange.map Listener.faltering
  connection := listeners.connection.map Listener.faltering

theorem Listeners.get_faltering (listeners : Listeners) (slot : Slot) :
    listeners.faltering.get slot =
      (listeners.get slot).map Listener.faltering := by
  cases slot <;> rfl

theorem Listeners.faltersAs_faltering (listeners : Listeners) :
    listeners.FaltersAs listeners.faltering := by
  intro slot
  rw [listeners.get_faltering]
  cases listeners.get slot with
  | none => exact .none
  | some listener =>
      exact .some fun invocation => (listener invocation).faltersAs_faltering

theorem Listeners.FaltersAs.empty_or {listeners others : Listeners}
    (related : listeners.FaltersAs others) (slot : Slot) :
    (listeners.get slot = none ∧ others.get slot = none) ∨
      ∃ listener other, listeners.get slot = some listener ∧
        others.get slot = some other ∧ listener.FaltersAs other := by
  have inSlot := related slot
  generalize listeners.get slot = first at inSlot ⊢
  generalize others.get slot = second at inSlot ⊢
  cases inSlot with
  | none => exact .inl ⟨rfl, rfl⟩
  | some falters => exact .inr ⟨_, _, rfl, rfl, falters⟩

theorem Listeners.faltersAs_of_marked (listeners : Listeners)
    (marked : Bool) :
    listeners.FaltersAs (if marked then listeners.faltering else listeners) := by
  cases marked with
  | true => exact listeners.faltersAs_faltering
  | false => exact .refl listeners

/-- The dispatcher with other listeners. -/
def Dispatcher.withListeners (dispatcher : Dispatcher)
    (listeners : Listeners) : Dispatcher :=
  { dispatcher with listeners := listeners }

namespace Hub

/-- The hub with other listeners. -/
def withListeners (hub : Hub) (listeners : Listeners) : Hub :=
  hub.setDispatcher (hub.dispatcher.withListeners listeners)

/-- Another hub that differs in nothing but its listeners, and these falter. -/
inductive FaltersAs (hub : Hub) : Hub → Prop where
  | refitted (listeners : Listeners) :
      hub.dispatcher.listeners.FaltersAs listeners →
      FaltersAs hub (hub.withListeners listeners)

theorem FaltersAs.refl (hub : Hub) : hub.FaltersAs hub :=
  .refitted hub.dispatcher.listeners (.refl hub.dispatcher.listeners)

theorem FaltersAs.listeners {hub other : Hub} (related : hub.FaltersAs other) :
    hub.dispatcher.listeners.FaltersAs other.dispatcher.listeners := by
  cases related with
  | refitted listeners falter => exact falter

theorem FaltersAs.refit {hub other : Hub} (related : hub.FaltersAs other)
    {listeners : Listeners}
    (falter : hub.dispatcher.listeners.FaltersAs listeners) :
    hub.FaltersAs (other.withListeners listeners) := by
  cases related with
  | refitted _ _ => exact .refitted listeners falter

theorem FaltersAs.withListeners_eq {hub other : Hub}
    (related : hub.FaltersAs other) (listeners : Listeners) :
    other.withListeners listeners = hub.withListeners listeners := by
  cases related with
  | refitted _ _ => rfl

theorem FaltersAs.setListener {hub other : Hub}
    (related : hub.FaltersAs other) (slot : Slot)
    {listener second : Option Listener}
    (inSlot : Option.Rel Listener.FaltersAs listener second) :
    (hub.setListener slot listener).FaltersAs
      (other.setListener slot second) := by
  cases related with
  | refitted listeners falter =>
      exact .refitted (listeners.set slot second) (falter.set slot inSlot)

/-! ## Steps -/

/-- Two steps that report the same and leave hubs that falter alike. -/
structure Echoes {α : Type} (ends : α → α → Prop) (step other : Step Hub α) :
    Prop where
  answer : ends step.answer other.answer
  reports : other.reports = step.reports
  after : step.after.FaltersAs other.after

theorem Echoes.andThen {α β : Type} {ends : β → β → Prop}
    {step other : Step Hub α} (echoes : Echoes Eq step other)
    {next second : α → Hub → Step Hub β}
    (nexts : ∀ answer hub changed, hub.FaltersAs changed →
      Echoes ends (next answer hub) (second answer changed)) :
    Echoes ends (step.andThen next) (other.andThen second) := by
  have later := nexts step.answer step.after other.after echoes.after
  rw [echoes.answer] at later
  refine ⟨?_, ?_, ?_⟩
  · simpa only [Step.andThen, echoes.answer] using later.answer
  · simp only [Step.andThen, echoes.answer, echoes.reports, later.reports]
  · simpa only [Step.andThen, echoes.answer] using later.after

theorem FaltersAs.onCorrelator {α : Type} {hub other : Hub}
    (related : hub.FaltersAs other)
    (operation : Correlator → Step Correlator α) :
    Echoes Eq (hub.onCorrelator operation)
      (other.onCorrelator operation) := by
  cases related with
  | refitted listeners falter =>
      exact ⟨rfl, rfl, .refitted listeners falter⟩

/-- An operation that does not look at the listeners does the same on both
hubs. -/
theorem FaltersAs.onDispatcher {α : Type} {hub other : Hub}
    (related : hub.FaltersAs other)
    {operation : Dispatcher → Step Dispatcher α}
    (blind : ∀ (dispatcher : Dispatcher) (listeners : Listeners),
      operation (dispatcher.withListeners listeners) =
        (operation dispatcher).lift (·.withListeners listeners)) :
    Echoes Eq (hub.onDispatcher operation)
      (other.onDispatcher operation) := by
  cases related with
  | refitted listeners falter =>
      have same : (hub.withListeners listeners).onDispatcher operation =
          (hub.onDispatcher operation).lift (·.withListeners listeners) := by
        exact congrArg (Step.lift hub.setDispatcher)
          (blind hub.dispatcher listeners)
      have kept : (hub.onDispatcher operation).after.dispatcher.listeners =
          hub.dispatcher.listeners :=
        congrArg (fun step => step.after.listeners)
          (blind hub.dispatcher hub.dispatcher.listeners)
      rw [same]
      exact ⟨rfl, rfl, .refitted listeners (kept ▸ falter)⟩

theorem enqueue_withListeners (raw : String) (dispatcher : Dispatcher)
    (listeners : Listeners) :
    (dispatcher.withListeners listeners).enqueue raw =
      (dispatcher.enqueue raw).lift (·.withListeners listeners) := by
  cases closed : dispatcher.closed <;>
    simp [Dispatcher.enqueue, Dispatcher.push, Dispatcher.withListeners,
      Dispatcher.notify, Step.lift, closed]

theorem close_withListeners (dispatcher : Dispatcher)
    (listeners : Listeners) :
    (dispatcher.withListeners listeners).close =
      dispatcher.close.lift (·.withListeners listeners) := rfl

/-- Whoever failed fails again. -/
def StillFails (failure other : Option Failure) : Prop :=
  failure.isSome = true → other.isSome = true

theorem StillFails.same_or_failed {failure other : Option Failure}
    (still : StillFails failure other) :
    other.isNone = failure.isNone ∨
      (failure.isNone = true ∧ other.isNone = false) := by
  cases failure with
  | none => cases other <;> simp
  | some failure =>
      obtain ⟨again, fails⟩ := Option.isSome_iff_exists.mp (still rfl)
      exact .inl (by rw [fails]; rfl)

/-- A program that falters does the same to both hubs until it ends. -/
theorem perform_echoes {program other : Program}
    (falters : program.FaltersAs other) (now : Instant) {hub changed : Hub}
    (related : hub.FaltersAs changed) :
    Echoes StillFails (hub.perform now program)
      (changed.perform now other) := by
  -- A deed answers the same on hubs that differ in their listeners only, so
  -- both programs go on with related branches, each on its own hub.
  induction falters generalizing hub changed with
  | finished => exact ⟨id, rfl, related⟩
  | faltered failure => exact ⟨fun _ => rfl, rfl, related⟩
  | failed failure other => exact ⟨fun _ => rfl, rfl, related⟩
  | note hearing _ induction =>
      have rest := induction related
      exact ⟨rest.answer, congrArg (_ :: ·) rest.reports, rest.after⟩
  | listen slot programs _ _ induction =>
      exact induction (related.setListener slot (.some programs))
  | unlisten slot _ induction =>
      exact induction (related.setListener slot .none)
  | enqueue raw _ induction =>
      exact (related.onDispatcher (enqueue_withListeners raw)).andThen
        fun accepted _ _ behind => induction accepted behind
  | complete id payload _ induction =>
      exact (related.onCorrelator _).andThen
        fun accepted _ _ behind => induction accepted behind
  | cancel id _ induction =>
      exact (related.onCorrelator _).andThen
        fun cancelled _ _ behind => induction cancelled behind
  | close _ induction =>
      exact (related.onDispatcher close_withListeners).andThen
        fun discarded _ _ behind => induction discarded behind

theorem perform_faltering (hub : Hub) (now : Instant) (program : Program) :
    (hub.perform now program.faltering).answer.isSome = true := by
  induction program generalizing hub with
  | finish => rfl
  | fail failure => rfl
  | note hearing next induction => exact induction hub
  | listen slot listener next _ induction => exact induction _
  | unlisten slot next induction => exact induction _
  | enqueue raw next induction => exact induction _ _
  | complete id payload next induction => exact induction _ _
  | cancel id next induction => exact induction _ _
  | close next induction => exact induction _ _

end Hub

end Switchboard
