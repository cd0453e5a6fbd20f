import SignalKernel.Interrupt.Core
import SignalKernel.Kernel.Notice
import SignalKernel.Logging.Logger
import SignalKernel.Scheduler

/-!
# The kernel's state, and work inside critical sections

The kernel is one core, the scheduler with all threads, the logger, and whatever the code around the
kernel keeps for itself, its client. All work is done by computations on this state. What interrupt
handlers may touch as well, threads' signal states and the run queue, is read and written in a
critical section only; so is the log's boot buffer.
-/

namespace SignalKernel

/-- The kernel's state, together with that of its client. -/
structure Kernel (γ : Type) where
  core : Core := {}
  scheduler : Scheduler := {}
  logger : Logger := {}
  client : γ

/-- A computation of the kernel. -/
abbrev KernelM (γ : Type) := StateM (Kernel γ)

/-- When an occurrence is delivered. -/
inductive Timing where
  /-- It is delivered as soon as it is posted. -/
  | immediate
  /-- It was pending before. -/
  | deferred
deriving DecidableEq

/-- The threads that have a sweep in progress while an occurrence is handed over. A deferred one is
handed over by a sweep. -/
def Timing.sweeping (timing : Timing) (id : ThreadId) (others : List ThreadId) : List ThreadId :=
  match timing with
  | .immediate => others
  | .deferred => id :: others

/-- The receiver of deliveries: what is done when an occurrence is handed to a thread. It may run
any computation of the kernel, for instance post further signals. -/
abbrev Sink (γ : Type) := ThreadId → Timing → Occurrence → KernelM γ Unit

namespace Kernel

variable {γ α : Type}

/-- The thread with an identity, or else the idle thread. -/
def thread (kernel : Kernel γ) (id : ThreadId) : Thread :=
  kernel.scheduler.threads.get id

/-- Change one thread. -/
def modifyThread (id : ThreadId) (change : Thread → Thread) : KernelM γ Unit :=
  modify fun kernel ↦ { kernel with scheduler := kernel.scheduler.modifyThread id change }

/-- Enter a critical section. -/
def enter : KernelM γ CriticalSection :=
  modifyGet fun kernel ↦
    let (entered, core) := kernel.core.enter
    (entered, { kernel with core })

/-- Leave a critical section. -/
def leave (entered : CriticalSection) : KernelM γ Unit :=
  modify fun kernel ↦ { kernel with core := kernel.core.leave entered }

/-- Do some work in a critical section. -/
def critical (body : KernelM γ α) : KernelM γ α := do
  let entered ← enter
  let result ← body
  leave entered
  pure result

/-- The interrupt depth as a component of the kernel's state. -/
def interrupts : Component (Kernel γ) InterruptDepth where
  get kernel := kernel.core.interrupts
  set interrupts kernel := { kernel with core := { kernel.core with interrupts } }

/-- Run a computation as an interrupt handler runs: to its end, with interrupts masked. -/
def asInterrupt (body : KernelM γ α) : KernelM γ α :=
  withoutInterrupts interrupts body

/-- Read or change a thread's signal state in a critical section. -/
def withSignals (id : ThreadId) (f : SignalState → α × SignalState) : KernelM γ α :=
  critical do
    let (result, signals) := f ((← get).thread id).signals
    modifyThread id fun thread ↦ { thread with signals }
    pure result

/-- Read a thread's signal state in a critical section. -/
def readSignals (id : ThreadId) (f : SignalState → α) : KernelM γ α :=
  critical do
    pure (f ((← get).thread id).signals)

/-- Read or change the scheduler in a critical section. -/
def withScheduler (f : Scheduler → α × Scheduler) : KernelM γ α :=
  critical (modifyGet fun kernel ↦
    let (result, scheduler) := f kernel.scheduler
    (result, { kernel with scheduler }))

/-- Read the scheduler in a critical section. -/
def readScheduler (f : Scheduler → α) : KernelM γ α :=
  critical do
    pure (f (← get).scheduler)

/-- Change the logger. -/
def modifyLogger (change : Logger → Logger) : KernelM γ Unit :=
  modify fun kernel ↦ { kernel with logger := change kernel.logger }

/-- Log one record. Only a record that goes to the boot buffer needs a critical section. -/
def log (record : Record) : KernelM γ Unit := do
  if (← get).logger.buffers record.level then critical (modifyLogger (·.log record))
  else modifyLogger (·.log record)

/-- Log an event of the kernel's own work. -/
def notify (notice : Notice) : KernelM γ Unit :=
  log notice.record

end Kernel

end SignalKernel
