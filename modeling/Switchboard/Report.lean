import Switchboard.Log.Notice
import Switchboard.Metrics.Counters

/-!
# Steps and what they report

An operation on some state is a function to a `Step`: its answer, the state
behind it, and the reports it made on the way, in order.
-/

namespace Switchboard

/-- What a listener was called with, as it noted it down. -/
structure Hearing where
  slot : Slot
  tag : String
  invocation : Invocation
  deriving Repr, DecidableEq

/-- Something that can be seen from outside. -/
inductive Report where
  | measured (measurement : Measurement)
  | logged (notice : Notice)
  | heard (hearing : Hearing)
  /-- A frame given to the transport. -/
  | sent (frame : String)
  deriving Repr, DecidableEq

/-- The answer of an operation, the state behind it, and its reports. -/
structure Step (σ α : Type) where
  answer : α
  after : σ
  reports : List Report := []
  deriving Repr

namespace Step

variable {σ τ α β : Type}

def map (f : α → β) (step : Step σ α) : Step σ β :=
  { answer := f step.answer, after := step.after, reports := step.reports }

/-- A step followed by another one on the state behind it. -/
def andThen (step : Step σ α) (next : α → σ → Step σ β) : Step σ β :=
  let second := next step.answer step.after
  { second with reports := step.reports ++ second.reports }

/-- A step on a part, seen as a step on the whole. -/
def lift (put : σ → τ) (step : Step σ α) : Step τ α :=
  { answer := step.answer, after := put step.after, reports := step.reports }

@[simp]
theorem answer_map (f : α → β) (step : Step σ α) :
    (step.map f).answer = f step.answer := rfl

@[simp]
theorem after_map (f : α → β) (step : Step σ α) :
    (step.map f).after = step.after := rfl

@[simp]
theorem reports_map (f : α → β) (step : Step σ α) :
    (step.map f).reports = step.reports := rfl

@[simp]
theorem answer_lift (put : σ → τ) (step : Step σ α) :
    (step.lift put).answer = step.answer := rfl

@[simp]
theorem after_lift (put : σ → τ) (step : Step σ α) :
    (step.lift put).after = put step.after := rfl

@[simp]
theorem reports_lift (put : σ → τ) (step : Step σ α) :
    (step.lift put).reports = step.reports := rfl

end Step

end Switchboard
