import SignalKernel.Program.Session

/-!
# Calls on signals, carried out

Calls that post or deliver need to know the sink that deliveries go to, and keep the history up to
date.
-/

namespace SignalKernel.Program

open SignalKernel.Kernel

/-- Where a call is made: the sink that its deliveries go to, and the threads that have a sweep in
progress there. -/
structure Site where
  sink : Sink Session
  sweeping : List ThreadId

/-- The records of one signal of a queue. -/
def pendingList (queue : PendingQueue) (signal : Nat) : PendingList :=
  ⟨signal, queue.count signal, queue.peek? signal⟩

/-- What can be seen of a thread's signals while a core is in a critical section. -/
def viewSignals (core : Core) (thread : Thread) : SignalView :=
  let signals := thread.signals
  { blocked := signals.blocked
    pending := signals.pending
    deliverable := signals.deliverable
    hasDeliverable := signals.hasDeliverable
    nextDeliverable := signals.deliverable.first?
    size := signals.queue.size
    queueCapacity := signals.queue.capacity
    threadCapacity := thread.pendingCapacity
    isFull := signals.queue.isFull
    isEmpty := signals.queue.isEmpty
    lists := signals.pending.toList.map (pendingList signals.queue)
    interruptDepth := core.interrupts.depth }

/-- The mask found, if it is wanted. -/
def whenWanted (wanted : Bool) (old : SignalSet) : Option SignalSet :=
  if wanted then some old else none

/-- Carry out a call on signals. -/
def SignalCall.run (site : Site) : SignalCall → ProgramM Answer
  | .changeMask id how set wantsOld =>
      onThread id fun id ↦ do
        let reply ← whileMasking id (Kernel.changeMask site.sink id how set)
        markMasked id set reply.outcome
        pure (.masked reply.outcome (whenWanted wantsOld reply.old)
          (← readSignals id (·.blocked)))
  | .sigprocmask how set wantsOld => do
      let caller ← current
      let reply ← whileMasking caller.id (Kernel.sigprocmask site.sink how set)
      markMasked caller.id set reply.outcome
      pure (.maskStatus (.ofOutcome reply.outcome) (whenWanted wantsOld reply.old)
        ((← get).thread caller.id).errno (← readSignals caller.id (·.blocked)))
  | .sigpending => do
      pure (.pendingStatus .ok (← Kernel.sigpending))
  | .kill id signal => do
      let caller ← current
      markSent site.sweeping id (.plain signal caller.id)
      let outcome ← Kernel.kill site.sink id signal
      noteSent id (.plain signal caller.id) outcome
      pure (.sent (.ofOutcome outcome) ((← get).thread caller.id).errno)
  | .sigqueue id signal value => do
      let caller ← current
      markSent site.sweeping id (.carrying signal caller.id value)
      let outcome ← Kernel.sigqueue site.sink id signal value
      noteSent id (.carrying signal caller.id value) outcome
      pure (.sent (.ofOutcome outcome) ((← get).thread caller.id).errno)
  | .post id o =>
      onThread id fun id ↦ do
        markPost site.sweeping id o
        let outcome ← Kernel.post site.sink id o
        note (.posted id o outcome)
        pure (.posted outcome)
  | .sweep id =>
      onThread id fun id ↦ do
        let delivered ← Kernel.sweep site.sink id
        markSwept id
        pure (.number delivered)
  | .deliver o => do
      let caller ← current
      site.sink caller.id .immediate o
      pure .done
  | .errno id =>
      onThread id fun id ↦ do
        pure (.errno ((← get).thread id).errno)
  | .setErrno id code =>
      onThread id fun id ↦ do
        modifyThread id fun thread ↦ { thread with errno := code }
        pure .done
  | .state id =>
      onThread id fun id ↦ critical do
        let kernel ← get
        pure (.signals (viewSignals kernel.core (kernel.thread id)))
  | .query id signal =>
      onThread id fun id ↦ readSignals id fun signals ↦
        .signal (signals.isBlocked signal) (signals.isPending signal)
          (pendingList signals.queue signal)
  | .resetState id mask capacity =>
      onThread id fun id ↦ withSignals id fun _ ↦
        let fresh := SignalState.ofMask mask capacity
        (.set fresh.blocked, fresh)

end SignalKernel.Program
