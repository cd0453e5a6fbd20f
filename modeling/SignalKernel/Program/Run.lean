import SignalKernel.Program.Interrupts
import SignalKernel.Program.Logging
import SignalKernel.Program.Scheduling
import SignalKernel.Program.Signals

/-!
# Running a program

A program runs on a kernel of its own and makes its calls in order. Deliveries go to a sink that
notes each of them and then carries out the handler for it, which may make any calls, so that
deliveries nest. A handler is used up when it starts. Hence deliveries nest no deeper than there are
handlers, and a recorder for that depth never runs out.

Handlers are scripts that are fixed before the run. This leaves no run out: whatever code handlers
are, a run in which all of them return makes one sequence of calls in each of them, and the scripts
with these sequences have the same run.
-/

namespace SignalKernel.Program

open SignalKernel.Kernel

mutual

/-- Carry out one call. -/
def Call.run (site : Site) : Call → ProgramM Answer
  | .scheduling call => call.run
  | .signal call => call.run site
  | .log call => call.run
  | .interrupt call => call.run
  | .masked calls => do
      pure (.several (← asInterrupt (Call.runAll site calls)))
  | .flagMasked calls => do
      let answers ← withoutInterrupts flagInterrupts (Call.runAll site calls)
      pure (.flagMasked answers (← flagEnabled))
  | .unknown => pure .unknown

/-- Carry out calls in order. -/
def Call.runAll (site : Site) : List Call → ProgramM (List Answer)
  | [] => pure []
  | call :: rest => do
      let answer ← call.run site
      markPoint site.sweeping
      let answers ← Call.runAll site rest
      pure (answer :: answers)

end

/-- Carry out the calls of a handler in order, noting each answer. -/
def runHandler (site : Site) : List Call → ProgramM Unit
  | [] => pure ()
  | call :: rest => do
      note (.answered (← call.run site))
      markPoint site.sweeping
      runHandler site rest

/-- The sink that marks deliveries in the history and then does something about them. What it does
is told the threads that have a sweep in progress then. -/
def marking (sweeping : List ThreadId) (handle : List ThreadId → Sink Session) : Sink Session :=
  fun id timing o ↦ do
    mark (.delivered (delivery (← get) id timing o))
    markPoint (timing.sweeping id sweeping)
    handle (timing.sweeping id sweeping) id timing o

/-- The sink that notes deliveries and carries out handlers, for deliveries that nest up to a
depth. -/
def recorder : (depth : Nat) → (sweeping : List ThreadId) → Sink Session
  | 0, sweeping => marking sweeping fun _ ↦ noteDelivery
  | depth + 1, sweeping =>
      marking sweeping fun sweeping id timing o ↦ do
        noteDelivery id timing o
        runHandler ⟨recorder depth sweeping, sweeping⟩ (← takeHandler o.signal)

/-- What can be seen of one call from outside: its answer, the events of its run, and what it handed
to the console. -/
structure Step where
  answer : Answer
  events : List Event
  console : List String

/-- Carry out one call and tell what can be seen of it. -/
def observe (site : Site) (call : Call) : ProgramM Step := do
  let before ← get
  let answer ← call.run site
  markPoint site.sweeping
  let after ← get
  pure
    { answer
      events := (after.client.events.extract before.client.events.size
        after.client.events.size).toList.filter Event.isShown
      console := (after.logger.console.extract before.logger.console.size
        after.logger.console.size).toList }

/-- Carry out calls in order and tell what can be seen of each. -/
def observeAll (site : Site) : List Call → ProgramM (List Step)
  | [] => pure []
  | call :: rest => do
      let step ← observe site call
      let steps ← observeAll site rest
      pure (step :: steps)

end Program

/-- A program: how its kernel logs, what becomes of deliveries, and the calls it makes. -/
structure Program where
  threshold : Threshold := .off
  isAttached : Bool := true
  /-- Deliveries are dropped instead of noted and handled. -/
  discards : Bool := false
  handlers : Program.Handlers := []
  calls : List Program.Call

namespace Program

/-- Where a program makes its calls. -/
def site (program : Program) : Site where
  sink :=
    if program.discards then marking [] fun _ ↦ Kernel.discarding
    else recorder program.handlers.size []
  sweeping := []

/-- The kernel that a program starts on. The scheduler is made after the logger. -/
def start (program : Program) : Kernel Session :=
  let kernel : Kernel Session :=
    { logger := { threshold := program.threshold, isAttached := program.isAttached }
      client := { handlers := program.handlers } }
  let making : ProgramM Unit := do
    Kernel.notify .schedulerCreated
    markPoint []
  (making kernel).2

/-- What can be seen of a run. -/
structure Report where
  /-- What making the scheduler handed to the console. -/
  created : List String
  steps : List Step

/-- Run a program. -/
def run (program : Program) : Report where
  created := program.start.logger.console.toList
  steps := (observeAll program.site program.calls program.start).1

/-- The kernel at the end of a program's run. -/
def final (program : Program) : Kernel Session :=
  (observeAll program.site program.calls program.start).2

/-- The history of a program's run. -/
def history (program : Program) : List Program.Moment :=
  program.final.client.history.toList

end Program

end SignalKernel
