import Mathlib.Data.List.ReduceOption
import Switchboard.Telemetry.Basic

/-!
# What a refused set-up leaves behind

Telemetry registers its collectors before it installs the log subscriber.  A
step that is refused therefore changes nothing, except when it is telemetry
that was refused its logging: such a step strands the collectors, which stay in
the registry without anyone who records into them.  Refused steps of the first
kind can be left out of a sequence.  One of the second kind bars every later
telemetry.
-/

namespace Switchboard

def SetupAnswer.isRefused : SetupAnswer → Bool
  | .refused _ => true
  | _ => false

/-- Whether a step that was answered so leaves the collectors behind. -/
def SetupStep.strands : SetupStep → SetupAnswer → Bool
  | .telemetry _, .refused .collectorsRegistered => false
  | .telemetry _, .refused _ => true
  | _, _ => false

theorem SetupStep.strands_telemetry (config : TelemetryConfig)
    {error : TelemetryError} (other : error ≠ .collectorsRegistered) :
    (SetupStep.telemetry config).strands (.refused error) = true := by
  cases error with
  | collectorsRegistered => exact (other rfl).elim
  | subscriberInstalled => rfl
  | invalidFilter complaint => rfl

namespace Telemetry

/-- Telemetry whose collectors have just been registered. -/
def registered (telemetry : Telemetry) : Telemetry :=
  { telemetry with collectors := some {} }

/-- Telemetry with the subscriber that a configuration asks for. -/
def subscribed (telemetry : Telemetry) (config : TelemetryConfig)
    (filter : Log.Filter) : Telemetry :=
  { telemetry with
    subscriber :=
      some
        { filter := filter
          consoleOutput := config.consoleOutput
          jsonLogs := config.jsonLogs } }

/-- Logging writes to the console and does nothing else. -/
theorem log_eq (telemetry : Telemetry) (target : String)
    (entry : Log.Entry) :
    ∃ lines, telemetry.log target entry =
      { telemetry with console := lines } := by
  unfold log
  split
  · exact ⟨telemetry.console, rfl⟩
  · split
    · exact ⟨_, rfl⟩
    · exact ⟨telemetry.console, rfl⟩

theorem release_eq (telemetry : Telemetry) (guard : Guard) :
    ∃ lines, telemetry.release guard =
      { telemetry with console := lines } := by
  unfold release
  dsimp only
  split
  · obtain ⟨before, ended⟩ := telemetry.log_eq telemetryTarget
      { level := .info, message := "Shutting down telemetry..." }
    rw [ended]
    exact log_eq _ _ _
  · exact log_eq _ _ _

theorem collectors_release (telemetry : Telemetry) (guard : Guard) :
    (telemetry.release guard).collectors = telemetry.collectors := by
  obtain ⟨lines, released⟩ := telemetry.release_eq guard
  rw [released]

section Installing

variable {telemetry : Telemetry} {config : TelemetryConfig}

theorem installLogging_of_unreadable {complaint : Log.FilterError}
    (unreadable : config.filterIn telemetry.environment = .error complaint) :
    telemetry.installLogging config =
      (.error (.invalidFilter complaint), telemetry) := by
  simp [installLogging, unreadable]

theorem installLogging_of_taken {filter : Log.Filter}
    {subscriber : Subscriber}
    (readable : config.filterIn telemetry.environment = .ok filter)
    (taken : telemetry.subscriber = some subscriber) :
    telemetry.installLogging config =
      (.error .subscriberInstalled, telemetry) := by
  simp [installLogging, readable, taken]

theorem installLogging_of_free {filter : Log.Filter}
    (readable : config.filterIn telemetry.environment = .ok filter)
    (free : telemetry.subscriber = none) :
    ∃ guard lines, telemetry.installLogging config =
      (.ok guard,
        { telemetry.subscribed config filter with console := lines }) := by
  simp only [installLogging, readable, free]
  obtain ⟨lines, logged⟩ := (telemetry.subscribed config filter).log_eq
    setupTarget
    { level := .info
      message := "Tracing initialized"
      fields :=
        [("service", .text config.serviceName),
          ("json_logs", .flag config.jsonLogs)] }
  exact ⟨_, lines, congrArg _ logged⟩

theorem installLogging_cases (telemetry : Telemetry)
    (config : TelemetryConfig) :
    (∃ error, error ≠ .collectorsRegistered ∧
        telemetry.installLogging config = (.error error, telemetry)) ∨
      ∃ guard after, after.collectors = telemetry.collectors ∧
        telemetry.installLogging config = (.ok guard, after) := by
  cases result : config.filterIn telemetry.environment with
  | error complaint =>
      exact .inl ⟨.invalidFilter complaint, by simp,
        installLogging_of_unreadable result⟩
  | ok filter =>
      cases taken : telemetry.subscriber with
      | some subscriber =>
          exact .inl ⟨.subscriberInstalled, by simp,
            installLogging_of_taken result taken⟩
      | none =>
          obtain ⟨guard, lines, installed⟩ :=
            installLogging_of_free result taken
          refine .inr ⟨guard, _, ?_, installed⟩
          rfl

theorem installLogging_of_readable
    (free : telemetry.subscriber = none)
    (readable : (config.filterIn telemetry.environment).isOk = true) :
    ∃ guard after, telemetry.installLogging config = (.ok guard, after) := by
  cases filtered : config.filterIn telemetry.environment with
  | error complaint => simp [filtered, Except.isOk, Except.toBool] at readable
  | ok filter =>
      obtain ⟨guard, lines, installed⟩ := installLogging_of_free filtered free
      exact ⟨guard, _, installed⟩

end Installing

theorem setUp_of_registered {telemetry : Telemetry} {held : Collectors}
    (present : telemetry.collectors = some held) (config : TelemetryConfig) :
    telemetry.setUp config = (.error .collectorsRegistered, telemetry) := by
  simp [setUp, register, present]

theorem setUp_of_unregistered {telemetry : Telemetry}
    (absent : telemetry.collectors = none) (config : TelemetryConfig) :
    telemetry.setUp config =
      match telemetry.registered.installLogging config with
      | (.error error, after) => (.error error, after)
      | (.ok guard, after) => (.ok { guard with metered := true }, after) := by
  simp only [setUp, register, absent]
  rfl

end Telemetry

namespace Setup

/-- A set-up whose collectors have just been registered. -/
def registered (setup : Setup) : Setup :=
  { setup with telemetry := setup.telemetry.registered }

theorem takeAll_append (setup : Setup) (first second : List SetupStep) :
    setup.takeAll (first ++ second) =
      let (answers, after) := setup.takeAll first
      let (others, final) := after.takeAll second
      (answers ++ others, final) := by
  induction first generalizing setup with
  | nil => rfl
  | cons next rest induction =>
      simp only [List.cons_append, takeAll, induction]

private theorem answers_sequel (setup : Setup) (step : SetupStep)
    (answer : Option SetupAnswer) :
    (setup.takeAll (sequel step answer)).1.reduceOption = [] := by
  unfold sequel
  split <;> rfl

/-- A script takes its own steps and others, which are not answered. -/
theorem run_eq_takeAll (setup : Setup) (script : List SetupStep) :
    ∃ steps, script.Sublist steps ∧
      setup.run script =
        ((setup.takeAll steps).1.reduceOption, (setup.takeAll steps).2) := by
  induction script generalizing setup with
  | nil => exact ⟨[], .slnil, rfl⟩
  | cons next rest induction =>
      let behind := (setup.step next).2
      let follows := sequel next (setup.step next).1
      let left := (behind.takeAll follows).2
      obtain ⟨steps, taken, result⟩ := induction left
      refine ⟨next :: (follows ++ steps), ?_, ?_⟩
      · exact (taken.trans (List.sublist_append_right _ _)).cons_cons next
      · have silent : (behind.takeAll follows).1.reduceOption = [] :=
          behind.answers_sequel next (setup.step next).1
        have all : setup.takeAll (next :: (follows ++ steps)) =
            ([(setup.step next).1] ++
                ((behind.takeAll follows).1 ++ (left.takeAll steps).1),
              (left.takeAll steps).2) := by
          simp only [takeAll, takeAll_append, List.singleton_append]
          rfl
        have heard :
            (setup.takeAll (next :: (follows ++ steps))).1.reduceOption =
              (setup.step next).1.toList ++
                (left.takeAll steps).1.reduceOption := by
          rw [all, List.reduceOption_append, List.reduceOption_append,
            List.reduceOption_singleton, silent, List.nil_append]
        rw [heard, all]
        change ((setup.step next).1.toList ++ (left.run rest).1,
          (left.run rest).2) = _
        rw [result]

/-- The steps that are taken with their answers. -/
def trail (setup : Setup) (steps : List SetupStep) :
    List (SetupStep × Option SetupAnswer) :=
  steps.zip (setup.takeAll steps).1

theorem step_logging_of_readable {setup : Setup} {config : TelemetryConfig}
    (free : setup.telemetry.subscriber = none)
    (readable : (config.filterIn setup.telemetry.environment).isOk = true) :
    (setup.step (.logging config)).1 = some (.installed config) := by
  obtain ⟨guard, after, installed⟩ :=
    Telemetry.installLogging_of_readable free readable
  simp [step, installed]

theorem step_telemetry_of_registered {setup : Setup} {held : Collectors}
    (present : setup.telemetry.collectors = some held)
    (config : TelemetryConfig) :
    setup.step (.telemetry config) =
      (some (.refused .collectorsRegistered), setup) := by
  simp [step, Telemetry.setUp_of_registered present]

theorem step_telemetry_of_readable {setup : Setup} {config : TelemetryConfig}
    (absent : setup.telemetry.collectors = none)
    (free : setup.telemetry.subscriber = none)
    (readable : (config.filterIn setup.telemetry.environment).isOk = true) :
    (setup.step (.telemetry config)).1 = some (.installed config) := by
  obtain ⟨guard, after, installed⟩ :=
    @Telemetry.installLogging_of_readable setup.telemetry.registered config
      free readable
  simp [step, Telemetry.setUp_of_unregistered absent, installed]

/-- A refused step does nothing, unless it strands the collectors. -/
theorem after_step_of_refused {setup : Setup} {step : SetupStep}
    {error : TelemetryError}
    (refused : (setup.step step).1 = some (.refused error)) :
    step.strands (.refused error) = false ∧ (setup.step step).2 = setup ∨
      step.strands (.refused error) = true ∧
        setup.telemetry.collectors = none ∧
          (setup.step step).2 = setup.registered := by
  cases step with
  | logging config =>
      refine .inl ⟨rfl, ?_⟩
      rcases setup.telemetry.installLogging_cases config with
        ⟨complaint, _, failed⟩ | ⟨guard, after, _, installed⟩
      · simp [Setup.step, failed]
      · simp [Setup.step, installed] at refused
  | telemetry config =>
      cases present : setup.telemetry.collectors with
      | some held =>
          have barred := step_telemetry_of_registered present config
          rw [barred] at refused ⊢
          cases refused
          exact .inl ⟨rfl, rfl⟩
      | none =>
          have begun := Telemetry.setUp_of_unregistered present config
          rcases setup.telemetry.registered.installLogging_cases config with
            ⟨complaint, other, failed⟩ | ⟨guard, after, _, installed⟩
          · simp only [Setup.step, begun, failed] at refused
            cases refused
            refine .inr ⟨SetupStep.strands_telemetry config other, rfl, ?_⟩
            simp only [Setup.step, begun, failed]
            rfl
          · simp [Setup.step, begun, installed] at refused
  | drop =>
      cases guards : setup.guards <;>
        simp [Setup.step, guards] at refused
  | encode => simp [Setup.step] at refused
  | measure measurement => simp [Setup.step] at refused

/-- Collectors are never taken out of the registry again. -/
theorem registered_step {setup : Setup} (step : SetupStep)
    (present : setup.telemetry.collectors ≠ none) :
    (setup.step step).2.telemetry.collectors ≠ none := by
  cases step with
  | logging config =>
      rcases setup.telemetry.installLogging_cases config with
        ⟨complaint, _, failed⟩ | ⟨guard, after, same, installed⟩
      · simpa [Setup.step, failed] using present
      · simpa [Setup.step, installed, same] using present
  | telemetry config =>
      obtain ⟨held, stored⟩ := Option.ne_none_iff_exists'.mp present
      rw [step_telemetry_of_registered stored]
      exact present
  | drop =>
      cases guards : setup.guards with
      | nil => simpa [Setup.step, guards] using present
      | cons guard rest =>
          simpa [Setup.step, guards, Telemetry.collectors_release] using
            present
  | encode => exact present
  | measure measurement => simpa [Setup.step, Telemetry.record] using present

private theorem registered_takeAll {setup : Setup} (steps : List SetupStep)
    (present : setup.telemetry.collectors ≠ none) :
    (setup.takeAll steps).2.telemetry.collectors ≠ none := by
  induction steps generalizing setup with
  | nil => exact present
  | cons next rest induction =>
      exact induction (registered_step next present)

/-- Once collectors are registered, every telemetry is refused, after whatever
other steps. -/
theorem telemetry_barred {setup : Setup}
    (present : setup.telemetry.collectors ≠ none)
    (later : List SetupStep) (config : TelemetryConfig) :
    ((setup.takeAll later).2.step (.telemetry config)).1 =
      some (.refused .collectorsRegistered) := by
  obtain ⟨held, stored⟩ :=
    Option.ne_none_iff_exists'.mp (registered_takeAll later present)
  rw [step_telemetry_of_registered stored]

/-- Whether a step that was answered so may be left out. -/
def isIdle (entry : SetupStep × Option SetupAnswer) : Bool :=
  entry.2.any fun answer => answer.isRefused && !entry.1.strands answer

private theorem after_step_of_idle {setup : Setup} {step : SetupStep}
    (idle : isIdle (step, (setup.step step).1) = true) :
    (setup.step step).2 = setup := by
  cases given : (setup.step step).1 with
  | none => simp [isIdle, given] at idle
  | some answer =>
      cases answer with
      | refused error =>
          rcases after_step_of_refused given with ⟨_, same⟩ | ⟨strands, _⟩
          · exact same
          · simp [isIdle, given, strands] at idle
      | _ => simp [isIdle, given, SetupAnswer.isRefused] at idle

private theorem takeAll_without_idle (setup : Setup) (steps : List SetupStep) :
    let lasting := (setup.trail steps).filter fun entry => !isIdle entry
    setup.takeAll (lasting.map Prod.fst) =
      (lasting.map Prod.snd, (setup.takeAll steps).2) := by
  induction steps generalizing setup with
  | nil => rfl
  | cons next rest induction =>
      have later := induction (setup.step next).2
      have begins :
          setup.trail (next :: rest) =
            (next, (setup.step next).1) ::
              (setup.step next).2.trail rest := rfl
      dsimp only at later ⊢
      rw [begins]
      by_cases idle : isIdle (next, (setup.step next).1) = true
      · have same := after_step_of_idle idle
        rw [List.filter_cons_of_neg (by simp [idle])]
        rw [same] at later ⊢
        simp only [takeAll, same]
        exact later
      · rw [List.filter_cons_of_pos (by simp [idle])]
        simp only [List.map_cons, takeAll, later]

private theorem registered_ne_self {setup : Setup}
    (absent : setup.telemetry.collectors = none) :
    setup.registered ≠ setup := by
  intro same
  have stored : setup.registered.telemetry.collectors = some {} := rfl
  rw [same, absent] at stored
  cases stored

/-- Refused steps leave nothing behind but collectors: those that do not strand
any can be left out of a sequence, and one that does bars every later telemetry,
whatever its configuration, but never logging. -/
theorem refused_steps_leave_only_collectors (environment : Environment)
    (steps : List SetupStep) :
    let begun : Setup := { telemetry := { environment := environment } }
    let reached := (begun.takeAll steps).2
    let lasting := (begun.trail steps).filter fun entry => !isIdle entry
    begun.takeAll (lasting.map Prod.fst) = (lasting.map Prod.snd, reached) ∧
    ∀ step error, (reached.step step).1 = some (.refused error) →
      let behind := (reached.step step).2
      (behind = reached ↔ step.strands (.refused error) = false) ∧
      (step.strands (.refused error) = true →
        reached.telemetry.collectors = none ∧
        behind = reached.registered ∧
        ∀ later config,
          ((behind.takeAll later).2.step (.telemetry config)).1 =
            some (.refused .collectorsRegistered)) ∧
      ∀ config,
        reached.telemetry.subscriber = none →
        (config.filterIn reached.telemetry.environment).isOk = true →
          (behind.step (.logging config)).1 = some (.installed config) ∧
          (reached.telemetry.collectors = none →
            ((behind.step (.telemetry config)).1 = some (.installed config) ↔
              step.strands (.refused error) = false)) := by
  intro begun reached lasting
  refine ⟨begun.takeAll_without_idle steps, ?_⟩
  intro step error refused behind
  rcases after_step_of_refused refused with
    ⟨spares, same⟩ | ⟨strands, absent, left⟩
  · have unchanged : behind = reached := same
    rw [unchanged]
    refine ⟨by simp [spares], by simp [spares], ?_⟩
    intro config free readable
    refine ⟨step_logging_of_readable free readable, ?_⟩
    intro absent
    have succeeds := step_telemetry_of_readable absent free readable
    simp [spares, succeeds]
  · have stranded : behind = reached.registered := left
    have present : behind.telemetry.collectors ≠ none := by
      rw [stranded]
      exact Option.some_ne_none _
    refine ⟨?_, ?_, ?_⟩
    · rw [stranded]
      simp [strands, registered_ne_self absent]
    · intro _
      exact ⟨absent, stranded, telemetry_barred present⟩
    · intro config free readable
      have barred := telemetry_barred present [] config
      refine ⟨?_, ?_⟩
      · rw [stranded]
        exact step_logging_of_readable free readable
      · intro _
        simp only [takeAll] at barred
        simp [barred, strands]

/-- Telemetry with a filter that cannot be read, behind logging with the same
filter.  Only the logging can be retried. -/
theorem only_logging_retried_after_unreadable_filter :
    let unreadable : TelemetryConfig := { logLevel := "switchboard=loud" }
    let begun : Setup := { telemetry := { environment := fun _ => none } }
    let reached := (begun.takeAll [.logging unreadable]).2
    let failed := reached.step (.telemetry unreadable)
    failed.1 = some (.refused (.invalidFilter .invalidLevel)) ∧
      failed.2 = reached.registered ∧
      (failed.2.step (.logging {})).1 = some (.installed {}) ∧
      (failed.2.step (.telemetry {})).1 =
        some (.refused .collectorsRegistered) := by
  intro unreadable begun reached failed
  have refused :
      failed.1 = some (.refused (.invalidFilter .invalidLevel)) := by
    decide +kernel
  have free : reached.telemetry.subscriber = none :=
    Option.isNone_iff_eq_none.mp (by decide +kernel)
  obtain ⟨_, leaves⟩ := refused_steps_leave_only_collectors (fun _ => none)
    [.logging unreadable]
  obtain ⟨_, stranded, retried⟩ := leaves _ _ refused
  obtain ⟨_, left, barred⟩ := stranded rfl
  exact ⟨refused, left, (retried {} free (by decide +kernel)).1, barred [] {}⟩

/-- Telemetry that was refused for its filter cannot always be retried with one
that can be read. -/
theorem corrected_retry_not_always_installed :
    ¬ ∀ (environment : Environment) (steps : List SetupStep)
        (unreadable corrected : TelemetryConfig)
        (complaint : Log.FilterError),
      let begun : Setup := { telemetry := { environment := environment } }
      let reached := (begun.takeAll steps).2
      let failed := reached.step (.telemetry unreadable)
      failed.1 = some (.refused (.invalidFilter complaint)) →
      reached.telemetry.subscriber = none →
      (corrected.filterIn environment).isOk = true →
        (failed.2.step (.telemetry corrected)).1 =
          some (.installed corrected) := by
  intro retried
  have installed := retried (fun _ => none) []
    { logLevel := "switchboard=loud" } {} .invalidLevel
    (by decide +kernel) rfl (by decide +kernel)
  exact absurd installed (by decide +kernel)

end Setup

end Switchboard
