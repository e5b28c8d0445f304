import Switchboard.Proofs.Dispatcher.Desk

/-!
# The order of notifications

In every run the notifications that were accepted are, in the order of their
acceptance, those that were dispatched, the rest of the batch in hand, and
those that wait or that a closing discarded.
-/

namespace Switchboard

namespace Event

@[simp]
def accepted? : Event → Option String
  | .accepted raw => some raw
  | _ => none

@[simp]
def dispatched? : Event → Option String
  | .dispatched raw => some raw
  | _ => none

@[simp]
def discarded : Event → List String
  | .closed discarded _ => discarded
  | _ => []

@[simp]
def told : Event → Nat
  | .closed _ told => told
  | _ => 0

@[simp]
def isClosing : Event → Bool
  | .closed _ _ => true
  | _ => false

end Event

/-- What has happened to notifications, the first event first. -/
abbrev History := List Event

namespace History

def accepted (history : History) : List String :=
  history.filterMap Event.accepted?

def dispatched (history : History) : List String :=
  history.filterMap Event.dispatched?

/-- The notifications that closings discarded. -/
def discarded (history : History) : List String :=
  history.flatMap Event.discarded

/-- How many notifications closings told to have discarded. -/
def told : History → Nat
  | [] => 0
  | event :: rest => event.told + told rest

@[simp]
theorem accepted_append (first second : History) :
    (first ++ second).accepted = first.accepted ++ second.accepted :=
  List.filterMap_append

@[simp]
theorem accepted_singleton (event : Event) :
    History.accepted [event] = event.accepted?.toList := by
  cases event <;> rfl

@[simp]
theorem dispatched_append (first second : History) :
    (first ++ second).dispatched = first.dispatched ++ second.dispatched :=
  List.filterMap_append

@[simp]
theorem dispatched_singleton (event : Event) :
    History.dispatched [event] = event.dispatched?.toList := by
  cases event <;> rfl

@[simp]
theorem discarded_append (first second : History) :
    (first ++ second).discarded = first.discarded ++ second.discarded :=
  List.flatMap_append

@[simp]
theorem discarded_singleton (event : Event) :
    History.discarded [event] = event.discarded :=
  List.flatMap_singleton _ _

@[simp]
theorem told_append (first second : History) :
    (first ++ second).told = first.told + second.told := by
  induction first with
  | nil => simp [told]
  | cons event rest induction =>
      simp only [List.cons_append, told, induction, Nat.add_assoc]

@[simp]
theorem told_singleton (event : Event) :
    History.told [event] = event.told := by
  simp [told]

end History

namespace Desk

/-- A history that accounts for the notifications of a desk. -/
structure Accounts (history : History) (desk : Desk) : Prop where
  closed : desk.closed = history.any Event.isClosing
  accepted : history.accepted =
    history.dispatched ++ desk.inHand ++
      if desk.closed then history.discarded else desk.queue
  emptied : desk.closed = true → desk.queue = []
  kept : desk.closed = false → history.discarded = []
  told : history.told = history.discarded.length

theorem Accounts.quiet {history : History} {before after : Desk}
    (accounts : before.Accounts history)
    (inHand : after.inHand = before.inHand)
    (queue : after.queue = before.queue)
    (closed : after.closed = before.closed) :
    after.Accounts (history ++ (none : Option Event).toList) := by
  rw [Option.toList_none, List.append_nil]
  refine ⟨?_, ?_, ?_, ?_, accounts.told⟩
  · rw [closed]
    exact accounts.closed
  · rw [inHand, queue, closed]
    exact accounts.accepted
  · rw [queue, closed]
    exact accounts.emptied
  · rw [closed]
    exact accounts.kept

theorem Accounts.pushed {history : History} {before : Desk}
    (accounts : before.Accounts history) (opened : before.closed = false)
    (raw : String) (owed : Nat) :
    Accounts (history ++ [.accepted raw])
      { before with queue := before.queue ++ [raw], owed := owed } := by
  have accepted := accounts.accepted
  have told := accounts.told
  have kept := accounts.kept opened
  rw [opened, if_neg Bool.false_ne_true] at accepted
  refine ⟨?_, ?_, ?_, ?_, ?_⟩
  · simp [accounts.closed]
  · simp [accepted, opened, inHand]
  · simp [opened]
  · simp [kept]
  · simp [told]

theorem Accounts.cleared {history : History} {before : Desk}
    (accounts : before.Accounts history) :
    Accounts (history ++ [.closed before.queue before.queue.length])
      { before with queue := [], closed := true } := by
  have accepted := accounts.accepted
  have told := accounts.told
  refine ⟨by simp, ?_, fun _ => rfl, nofun, ?_⟩
  · cases closed : before.closed with
    | true =>
        rw [closed, if_pos rfl] at accepted
        simp [accepted, accounts.emptied closed, inHand]
    | false =>
        rw [closed, if_neg Bool.false_ne_true] at accepted
        simp [accepted, accounts.kept closed, inHand]
  · simp [told]

private theorem Accounts.took
    {history : History} {before : Desk} {drain : Drain}
    (accounts : before.Accounts history)
    (present : before.drain = some drain) (phase : drain.phase = .taking)
    (size delivered : Nat) :
    Accounts (history ++ (none : Option Event).toList)
      { before with
        queue := []
        drain := some
          (drain.enter (.dispatching before.queue size delivered)) } := by
  have accepted := accounts.accepted
  rw [inHand_of_eq present, phase] at accepted
  rw [Option.toList_none, List.append_nil]
  refine ⟨accounts.closed, ?_, fun _ => rfl, accounts.kept, accounts.told⟩
  rw [accepted, inHand_of_eq rfl]
  cases closed : before.closed with
  | true => simp [DrainPhase.inHand, Drain.enter, accounts.emptied closed]
  | false => simp [DrainPhase.inHand, Drain.enter]

private theorem Accounts.dispatched {history : History} {before : Desk}
    {drain : Drain} {raw : String} {rest : List String}
    {size delivered : Nat} (accounts : before.Accounts history)
    (present : before.drain = some drain)
    (phase : drain.phase = .dispatching (raw :: rest) size delivered) :
    Accounts (history ++ [.dispatched raw])
      { before with
        drain := some
          (drain.enter (.dispatching rest size delivered)) } := by
  have accepted := accounts.accepted
  rw [inHand_of_eq present, phase] at accepted
  refine ⟨?_, ?_, accounts.emptied, ?_, ?_⟩
  · simp [accounts.closed]
  · rw [inHand_of_eq rfl]
    simp [accepted, DrainPhase.inHand, Drain.enter]
  · simpa using accounts.kept
  · simpa using accounts.told

private theorem Moves.accounts {history : History} {before after : Desk}
    {event : Option Event} (moves : before.Moves event after)
    (accounts : before.Accounts history) :
    after.Accounts (history ++ event.toList) := by
  -- Notifications change their place in four of the moves only.
  cases moves with
  | unchanged => exact accounts.quiet rfl rfl rfl
  | pushed raw opened => exact accounts.pushed opened raw _
  | notified owed owes => exact accounts.quiet rfl rfl rfl
  | cleared => exact accounts.cleared
  | announced => exact accounts.quiet rfl rfl rfl
  | arrived drain absent phase =>
      refine accounts.quiet ?_ rfl rfl
      simp [inHand, absent, phase, DrainPhase.inHand]
  | continued drain phase present busy busyAfter same =>
      refine accounts.quiet ?_ rfl rfl
      rw [inHand_of_eq present, ← same]
      rfl
  | took drain size delivered present phase =>
      exact accounts.took present phase size delivered
  | idled drain present phase empty =>
      refine accounts.quiet ?_ empty.symm rfl
      rw [inHand_of_eq present, phase]
      rfl
  | dispatched drain raw rest size delivered present phase =>
      exact accounts.dispatched present phase
  | entered drain present phase =>
      refine accounts.quiet ?_ rfl rfl
      rw [inHand_of_eq present, phase, inHand_of_eq rfl]
      dsimp only [Drain.enter]
      split <;> rfl
  | woke drain present phase woken =>
      refine accounts.quiet ?_ rfl rfl
      rw [inHand_of_eq present, phase]
      rfl
  | left drain seen phase present waits next =>
      refine accounts.quiet ?_ rfl rfl
      rw [inHand_of_eq present, inHand_of_eq rfl]
      rcases waits with waits | waits <;> rcases next with rfl | rfl <;>
        rw [waits] <;> rfl

end Desk

namespace Service

theorem run_accounts {service : Service} (orderly : service.Orderly)
    {history : History} (accounts : service.desk.Accounts history)
    (actions : List Action) :
    (service.run actions).desk.Accounts
      (history ++ service.history actions) := by
  induction actions generalizing service history with
  | nil => simpa [run, Service.history] using accounts
  | cons action rest induction =>
      have step := (act_moves orderly action).accounts accounts
      simpa [run, Service.history] using
        induction (act_orderly orderly action) step

theorem accounts_ofConfig (config : EngineConfig) :
    (ofConfig config).desk.Accounts [] :=
  ⟨rfl, rfl, fun _ => rfl, fun _ => rfl, rfl⟩

/-- No notification is lost, repeated or overtaken: those accepted are, in
their order, those dispatched, the rest of the batch in hand, and those that
wait or, once there has been a closing, were discarded and told. -/
theorem accepted_eq_dispatched_inHand_waiting (config : EngineConfig)
    (actions : List Action) :
    let begun := ofConfig config
    let desk := (begun.run actions).desk
    let history : History := begun.history actions
    history.accepted =
        history.dispatched ++ desk.inHand ++
          (if desk.closed then history.discarded else desk.queue) ∧
      history.dispatched <+: history.accepted ∧
      desk.closed = history.any Event.isClosing ∧
      (desk.closed = true → desk.queue = []) ∧
      (desk.closed = false → history.discarded = []) ∧
      history.told = history.discarded.length := by
  intro begun desk history
  have accounts : desk.Accounts history :=
    run_accounts (orderly_ofConfig config) (accounts_ofConfig config) actions
  refine ⟨accounts.accepted, ?_, accounts.closed, accounts.emptied,
    accounts.kept, accounts.told⟩
  rw [accounts.accepted, List.append_assoc]
  exact List.prefix_append _ _

/-- A listener takes on a notification and closes the dispatcher while another
one is in hand: the one in hand is still dispatched, the new one discarded. -/
theorem accepted_under_a_closing_listener :
    let launched := "\x7b\"method\":\"onLaunched\"\x7d"
    let closes : Listener := fun _ =>
      .enqueue "third" fun _ => .close fun _ => .finish
    let actions : List Action :=
      [.start 0, .listen .lifecycle closes, .push launched, .notify,
        .push "second", .notify] ++ List.replicate 10 (.drain false)
    let history : History := (ofConfig {}).history actions
    history.dispatched = [launched, "second"] ∧
      history.discarded = ["third"] ∧
      history.accepted = [launched, "second", "third"] := by
  intro launched closes actions history
  have dispatched : history.dispatched = [launched, "second"] := by
    decide +kernel
  have discarded : history.discarded = ["third"] := by decide +kernel
  have inHand : ((ofConfig {}).run actions).desk.inHand = [] := by
    decide +kernel
  have closed : ((ofConfig {}).run actions).desk.closed = true := by
    decide +kernel
  refine ⟨dispatched, discarded, ?_⟩
  have accounts := (accepted_eq_dispatched_inHand_waiting {} actions).1
  change history.accepted = history.dispatched ++ _ ++ _ at accounts
  rw [accounts, dispatched, inHand, closed, if_pos rfl]
  change _ ++ history.discarded = _
  rw [discarded]
  rfl

end Service

end Switchboard
