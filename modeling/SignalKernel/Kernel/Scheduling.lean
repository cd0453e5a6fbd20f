import SignalKernel.Kernel.Basic

/-!
# Scheduling

Threads are created and made to run, and a thread's scheduler lock defers preemption while it is
held. Unlike a critical section the lock leaves interrupts alone. Releasing its last level is a
preemption point.
-/

namespace SignalKernel.Kernel

variable {γ : Type}

/-- The thread that runs. -/
def current : KernelM γ Thread :=
  readScheduler (·.currentThread)

/-- The thread with an identity. -/
def find? (id : ThreadId) : KernelM γ (Option Thread) :=
  readScheduler (·.threads.find? id)

/-- Create a thread and let it wait to run. -/
def spawn (config : ThreadConfig) : KernelM γ Thread := do
  let thread ← withScheduler (·.spawn config)
  notify (.threadAdded thread.id thread.name thread.pendingCapacity)
  pure thread

/-- Let a thread run out of turn, if there is such a thread. -/
def setCurrent (id : ThreadId) : KernelM γ Bool :=
  withScheduler (·.setCurrent id)

/-- Ask for a reschedule at the next preemption point. -/
def requestResched : KernelM γ Unit :=
  modify fun kernel ↦
    { kernel with scheduler := { kernel.scheduler with reschedRequested := true } }

/-- Log a switch, if there was one. -/
def notifySwitch (switch : Option Switch) : KernelM γ Unit :=
  match switch with
  | none => pure ()
  | some { before, after } => notify (.switched before after)

/-- Let the next waiting thread run. -/
def schedule : KernelM γ (Option Switch) := do
  let switch ← withScheduler (·.rotate)
  notifySwitch switch
  pure switch

/-- Reschedule if that was asked for and the running thread allows it. -/
def preemptionPoint : KernelM γ (Option Switch) := do
  let switch ← withScheduler (·.preempt)
  notifySwitch switch
  pure switch

/-- Take one more level of a thread's scheduler lock. -/
def lockScheduler (id : ThreadId) : KernelM γ Unit :=
  modifyThread id fun thread ↦ { thread with lockDepth := thread.lockDepth + 1 }

/-- Give one level of a thread's scheduler lock back. With the last level comes a preemption
point. -/
def unlockScheduler (id : ThreadId) : KernelM γ Unit := do
  let depth := ((← get).thread id).lockDepth
  modifyThread id fun thread ↦ { thread with lockDepth := thread.lockDepth - 1 }
  if depth = 1 then discard preemptionPoint

end SignalKernel.Kernel
