import SignalKernel.Program.Session

/-!
# Calls on threads and the scheduler, carried out
-/

namespace SignalKernel.Program

open SignalKernel.Kernel

/-- Carry out a call on threads or the scheduler. -/
def SchedulingCall.run : SchedulingCall → ProgramM Answer
  | .spawn config => do
      let thread ← Kernel.spawn config
      pure (.spawned thread.id thread.name thread.pendingCapacity
        (← readSignals thread.id (·.blocked)))
  | .current => do
      let thread ← Kernel.current
      pure (.running (← readScheduler (·.current)) thread.name)
  | .setCurrent id => do
      pure (.truth (← Kernel.setCurrent id))
  | .requestResched => do
      Kernel.requestResched
      pure .done
  | .isReschedRequested => do
      pure (.truth (← get).scheduler.reschedRequested)
  | .contextSwitches => do
      pure (.number (← get).scheduler.contextSwitches.toNat)
  | .preemptionPoint => do
      pure (.switched (← Kernel.preemptionPoint))
  | .schedule => do
      pure (.switched (← Kernel.schedule))
  | .lock id =>
      onThread id fun id ↦ do
        lockScheduler id
        modifySession fun session ↦ { session with locks := session.locks ++ [some id] }
        pure (.number ((← get).thread id).lockDepth.toNat)
  | .unlock index => do
      match (← get).client.locks[index]? with
      | some (some id) =>
          modifySession fun session ↦ { session with locks := session.locks.set index none }
          unlockScheduler id
          pure (.truth true)
      | _ => pure (.truth false)
  | .lockDepth id =>
      onThread id fun id ↦ do
        pure (.number ((← get).thread id).lockDepth.toNat)
  | .describe id =>
      onThread id fun id ↦ do
        let thread := (← get).thread id
        pure (.described thread.name thread.display)

end SignalKernel.Program
