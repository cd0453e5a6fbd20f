import SignalKernel.Interrupt.Flag
import SignalKernel.Program.Answer
import SignalKernel.Program.Call
import SignalKernel.Program.History

/-!
# What a program keeps while it runs

A program is a client of the kernel. It keeps the locks, flags and critical sections that it
obtained, the handlers that deliveries have yet to start, the events of its run, and the history of
its signals.
-/

namespace SignalKernel.Program

open SignalKernel.Kernel

/-- An event of a run. -/
inductive Event where
  /-- An occurrence was handed to the sink. -/
  | delivered (delivery : Delivery)
  /-- A call of a handler was answered. -/
  | answered (answer : Answer)
  /-- An occurrence was posted to a thread that exists. -/
  | posted (id : ThreadId) (o : Occurrence) (outcome : Except SignalError Fate)

/-- The event is shown to the outside. What becomes of a post shows in its answer and in deliveries,
so the post itself is not. -/
def Event.isShown : Event → Bool
  | delivered _ | answered _ => true
  | posted .. => false

/-- The handlers of each signal, the one for its next delivery first. -/
abbrev Handlers := List (Nat × List (List Call))

namespace Handlers

/-- The handler for a signal's next delivery, and the handlers after it. -/
def take (signal : Nat) : Handlers → Option (List Call) × Handlers
  | [] => (none, [])
  | (handled, scripts) :: rest =>
      if handled = signal then
        match scripts with
        | [] => (none, (handled, []) :: rest)
        | script :: later => (some script, (handled, later) :: rest)
      else
        let (script, rest) := take signal rest
        (script, (handled, scripts) :: rest)

/-- How many handlers there are. -/
def size : Handlers → Nat
  | [] => 0
  | (_, scripts) :: rest => scripts.length + size rest

end Handlers

/-- What a program keeps. -/
structure Session where
  handlers : Handlers := []
  events : Array Event := #[]
  history : Array Moment := #[]
  /-- The threads whose scheduler lock is held, by the order of locking. -/
  locks : List (Option ThreadId) := []
  /-- The threads on which a change of the mask is in progress, the one begun last first. -/
  masking : List ThreadId := []
  flags : List InterruptFlags := []
  sections : List (Option CriticalSection) := []
  /-- The second core. -/
  flagCore : InterruptFlag := {}
  cell : UInt64 := 0

/-- The threads whose scheduler lock is held, once for each level. A change of a mask holds one
level from its beginning to its end. -/
def Session.holding (session : Session) : List ThreadId :=
  session.locks.filterMap id ++ session.masking

/-- A computation of a program. -/
abbrev ProgramM := KernelM Session

/-- Change what the program keeps. -/
def modifySession (change : Session → Session) : ProgramM Unit :=
  modify fun kernel ↦ { kernel with client := change kernel.client }

/-- Do something with the thread that a call concerns: the given one, or else the one that runs. -/
def onThread (id : Option ThreadId) (body : ThreadId → ProgramM Answer) : ProgramM Answer := do
  match id with
  | none => body (← current).id
  | some id =>
      match ← find? id with
      | none => pure .noThread
      | some thread => body thread.id

/-- Note an event of the run. -/
def note (event : Event) : ProgramM Unit :=
  modifySession fun session ↦ { session with events := session.events.push event }

/-- Add a moment to the history. -/
def mark (moment : Moment) : ProgramM Unit :=
  modifySession fun session ↦ { session with history := session.history.push moment }

/-- Mark a point of the run. -/
def markPoint (sweeping : List ThreadId) : ProgramM Unit := do
  let kernel ← get
  mark (.passed ⟨kernel.scheduler, sweeping, kernel.client.holding⟩)

/-- Mark a post that is about to be made. -/
def markPost (sweeping : List ThreadId) (id : ThreadId) (o : Occurrence) : ProgramM Unit := do
  mark (.posted ⟨id, o, ((← get).thread id).signals, sweeping⟩)

/-- Mark a post that sending an occurrence is about to make. It makes none if the thread does not
exist, or if the signal only tests that it does. -/
def markSent (sweeping : List ThreadId) (id : ThreadId) (o : Occurrence) : ProgramM Unit := do
  if ((← get).scheduler.threads.find? id).isSome && o.signal != 0 then markPost sweeping id o

/-- A change of a thread's mask begins. -/
def beginMasking (id : ThreadId) : ProgramM Unit :=
  modifySession fun session ↦ { session with masking := id :: session.masking }

/-- The change of a mask that began last is over. -/
def endMasking : ProgramM Unit :=
  modifySession fun session ↦ { session with masking := session.masking.tail }

/-- Make a change of a thread's mask, which counts as in progress until it is over. -/
def whileMasking {α : Type} (id : ThreadId) (change : ProgramM α) : ProgramM α := do
  beginMasking id
  let result ← change
  endMasking
  pure result

/-- Mark that a sweep of a thread is over. -/
def markSwept (id : ThreadId) : ProgramM Unit := do
  mark (.swept id ((← get).thread id).signals)

/-- Mark that the sweep in a change of a mask is over. A call that was refused or only asked for the
mask did not sweep. -/
def markMasked (id : ThreadId) (set : Option SignalSet) (outcome : Except MaskError Unit) :
    ProgramM Unit :=
  match set, outcome with
  | some _, .ok () => markSwept id
  | _, _ => pure ()

/-- A delivery with the kernel as it is. -/
def delivery (kernel : Kernel Session) (id : ThreadId) (timing : Timing) (o : Occurrence) :
    Delivery :=
  let thread := kernel.thread id
  { id
    timing
    occurrence := o
    mask := thread.signals.blocked
    pending := thread.signals.pending
    current := kernel.scheduler.current
    lockDepth := thread.lockDepth
    interruptDepth := kernel.core.interrupts.depth }

/-- Note a delivery with the kernel as it is. -/
def noteDelivery (id : ThreadId) (timing : Timing) (o : Occurrence) : ProgramM Unit := do
  note (.delivered (delivery (← get) id timing o))

/-- Note what became of an occurrence that was sent. Nothing is noted if it was not posted: because
the thread does not exist, or because the signal only tests that it does. -/
def noteSent (id : ThreadId) (o : Occurrence) :
    Except SignalError (Option Fate) → ProgramM Unit
  | .ok none | .error .noSuchThread => pure ()
  | .ok (some fate) => note (.posted id o (.ok fate))
  | .error error => note (.posted id o (.error error))

/-- Take the handler for a signal's next delivery; without one there is nothing to do. -/
def takeHandler (signal : Nat) : ProgramM (List Call) := do
  let (script, handlers) := (← get).client.handlers.take signal
  modifySession fun session ↦ { session with handlers }
  pure (script.getD [])

end SignalKernel.Program
