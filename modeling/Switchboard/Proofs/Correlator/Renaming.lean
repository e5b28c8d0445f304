import Switchboard.Proofs.Correlator.Session

/-!
# Renaming cells

Cells are numbered in the order in which records are registered, whatever
their ids.  Two runs that agree on one id but not on the others can therefore
be compared only up to a renaming of cells.  Renaming a caller changes the
cell it waits on and nothing else.
-/

namespace Switchboard

abbrev Renaming := CellId → CellId

def Record.rename (record : Record) (rho : Renaming) : Record :=
  { record with cell := rho record.cell }

def Attachment.rename (attachment : Attachment) (rho : Renaming) :
    Attachment :=
  match attachment with
  | .resolved outcome => .resolved outcome
  | .waiting cell => .waiting (rho cell)

def Wait.rename (wait : Wait) (rho : Renaming) : Wait :=
  { wait with cell := rho wait.cell }

def HandleSource.rename (source : HandleSource) (rho : Renaming) :
    HandleSource :=
  match source with
  | .ready outcome => .ready outcome
  | .waiting cell => .waiting (rho cell)

def Handle.rename (handle : Handle) (rho : Renaming) : Handle :=
  { handle with source := handle.source.rename rho }

def WaitStart.rename (start : WaitStart) (rho : Renaming) : WaitStart :=
  match start with
  | .refused => .refused
  | .resolved outcome => .resolved outcome
  | .waiting wait => .waiting (wait.rename rho)

def Stage.rename (stage : Stage) (rho : Renaming) : Stage :=
  match stage with
  | .waiting wait => .waiting (wait.rename rho)
  | .holding handle => .holding (handle.rename rho)
  | .limited handle deadline => .limited (handle.rename rho) deadline
  | .ended outcome => .ended outcome

def Waiter.rename (waiter : Waiter) (rho : Renaming) : Waiter :=
  { origin := waiter.origin.map rho
    stage := waiter.stage.rename rho }

def Session.Answer.rename (answer : Session.Answer) (rho : Renaming) :
    Session.Answer :=
  match answer with
  | .started start => .started (start.rename rho)
  | .opened handle => .opened (handle.rename rho)
  | .polled outcome => .polled outcome
  | .flag value => .flag value
  | .count value => .count value
  | .nothing => .nothing

@[simp]
theorem Record.state_rename (record : Record) (rho : Renaming) :
    (record.rename rho).state = record.state := rfl

@[simp]
theorem Record.cell_rename (record : Record) (rho : Renaming) :
    (record.rename rho).cell = rho record.cell := rfl

theorem WaitStart.stage?_rename (start : WaitStart) (rho : Renaming) :
    (start.rename rho).stage? =
      start.stage?.map fun stage => stage.rename rho := by
  cases start <;> rfl

theorem Handle.cell?_rename (handle : Handle) (rho : Renaming) :
    (handle.rename rho).cell? = handle.cell?.map rho := by
  obtain ⟨id, source⟩ := handle
  cases source <;> rfl

theorem Handle.known?_rename (handle : Handle) (rho : Renaming) :
    (handle.rename rho).known? = handle.known? := by
  obtain ⟨id, source⟩ := handle
  cases source <;> rfl

namespace Stage

variable (stage : Stage) (rho : Renaming)

theorem cell?_rename :
    (stage.rename rho).cell? = stage.cell?.map rho := by
  cases stage with
  | waiting wait => rfl
  | holding handle => exact handle.cell?_rename rho
  | limited handle deadline => exact handle.cell?_rename rho
  | ended outcome => rfl

theorem known?_rename : (stage.rename rho).known? = stage.known? := by
  cases stage with
  | waiting wait => rfl
  | holding handle => exact handle.known?_rename rho
  | limited handle deadline => exact handle.known?_rename rho
  | ended outcome => rfl

@[simp]
theorem isEnded_rename :
    (stage.rename rho).isEnded = stage.isEnded := by
  cases stage <;> rfl

@[simp]
theorem isLate_rename (rung : Instant) :
    (stage.rename rho).isLate rung = stage.isLate rung := by
  cases stage <;> rfl

theorem IsFor.rename {stage : Stage} {id : RequestId}
    (mine : stage.IsFor id) (rho : Renaming) :
    (stage.rename rho).IsFor id := by
  cases stage <;> exact mine

theorem rename_behind (answer : Option Outcome) :
    (stage.behind answer).rename rho =
      (stage.rename rho).behind answer := by
  cases answer <;> rfl

end Stage

end Switchboard
