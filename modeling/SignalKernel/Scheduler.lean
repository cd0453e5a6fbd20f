import SignalKernel.Thread.Table

/-!
# The scheduler

One thread runs at a time. The others that could run wait in the ready list, and `rotate` lets the
first of them run and puts the one that ran behind the last. The idle thread runs when it is told to
and never waits in the list. A request to reschedule is kept until a preemption point finds the
running thread's scheduler lock free; `preempt` is what happens there.
-/

namespace SignalKernel

/-- The threads, which of them runs, and which wait to run. -/
structure Scheduler where
  threads : ThreadTable := { idle := .ofConfig 0 .idle }
  /-- The threads waiting to run, the next one first. -/
  ready : List ThreadId := []
  /-- The thread that runs. -/
  current : ThreadId := 0
  /-- Somebody asked to reschedule. -/
  reschedRequested : Bool := false
  /-- How many times another thread was made to run; a 64-bit word. -/
  contextSwitches : UInt64 := 0
  /-- The identity of the next thread to be created; a 64-bit word. -/
  nextId : ThreadId := 1

/-- A change of the running thread: the one that ran before, and the one that runs after. -/
structure Switch where
  before : ThreadId
  after : ThreadId
deriving DecidableEq

namespace Scheduler

/-- The idle thread's identity. -/
def idle (scheduler : Scheduler) : ThreadId :=
  scheduler.threads.idle.id

/-- The running thread, or the idle thread if there is no thread of that identity. -/
def currentThread (scheduler : Scheduler) : Thread :=
  scheduler.threads.get scheduler.current

/-- Change one thread. -/
def modifyThread (scheduler : Scheduler) (id : ThreadId) (change : Thread → Thread) : Scheduler :=
  { scheduler with threads := scheduler.threads.modify id change }

/-- Create a thread and let it wait behind the others. -/
def spawn (scheduler : Scheduler) (config : ThreadConfig) : Thread × Scheduler :=
  let thread := Thread.ofConfig scheduler.nextId config
  (thread,
    { scheduler with
      threads := scheduler.threads.add thread
      ready := scheduler.ready ++ [thread.id]
      nextId := scheduler.nextId + 1 })

/-- The list with the thread that ran put behind the others. The idle thread never waits. -/
def requeue (scheduler : Scheduler) (waiting : List ThreadId) : List ThreadId :=
  if scheduler.current = scheduler.idle then waiting else waiting ++ [scheduler.current]

/-- Let a thread run out of turn. It no longer waits, and the thread that ran waits instead. An
identity that no thread has is refused. -/
def setCurrent (scheduler : Scheduler) (id : ThreadId) : Bool × Scheduler :=
  match scheduler.threads.find? id with
  | none => (false, scheduler)
  | some _ =>
      let waiting := scheduler.ready.filter (· != id)
      (true,
        { scheduler with
          ready := if scheduler.current = id then waiting else scheduler.requeue waiting
          current := id })

/-- Let the first waiting thread run. Without one nothing changes. -/
def rotate (scheduler : Scheduler) : Option Switch × Scheduler :=
  match scheduler.ready with
  | [] => (none, scheduler)
  | next :: waiting =>
      (some ⟨scheduler.current, next⟩,
        { scheduler with
          ready := scheduler.requeue waiting
          current := next
          contextSwitches := scheduler.contextSwitches + 1 })

/-- A preemption point would reschedule: somebody asked for it, and the running thread's scheduler
lock is free. -/
def isPreemptible (scheduler : Scheduler) : Bool :=
  scheduler.currentThread.lockDepth == 0 && scheduler.reschedRequested

/-- Pass a preemption point. If it reschedules, the request is spent, whether or not a thread was
waiting. -/
def preempt (scheduler : Scheduler) : Option Switch × Scheduler :=
  if scheduler.isPreemptible then { scheduler with reschedRequested := false }.rotate
  else (none, scheduler)

/-- Rotating without a waiting thread changes nothing. -/
theorem rotate_of_ready_nil {scheduler : Scheduler} (h : scheduler.ready = []) :
    scheduler.rotate = (none, scheduler) := by
  unfold rotate
  split
  · rfl
  · simp_all

end Scheduler

end SignalKernel
