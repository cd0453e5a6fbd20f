import SignalKernel.Kernel.Basic

/-!
# The history of a program's signals

While a program runs it keeps a history: which occurrences it posted and what it found then, which
occurrences were delivered, how sweeps left a thread, and the state of all threads at each point
where the program could look at it. Nothing in a run depends on the history; what a run does to
signals is said in terms of it.
-/

namespace SignalKernel.Program

/-- A delivery as the sink sees it, with what it finds in the kernel at that moment. -/
structure Delivery where
  id : ThreadId
  timing : Timing
  occurrence : Occurrence
  mask : SignalSet
  pending : SignalSet
  current : ThreadId
  /-- The depth of the thread's scheduler lock. -/
  lockDepth : UInt32
  interruptDepth : UInt64

/-- A point of a run at which the program, or a handler of it, is about to make a call or to end. -/
structure Point where
  scheduler : Scheduler
  /-- The threads that have a sweep in progress, the one entered last first. -/
  sweeping : List ThreadId
  /-- The threads whose scheduler lock is held, once for each level: what the program keeps, and
  then what changes of a mask in progress hold. -/
  holding : List ThreadId

/-- A post to a thread that exists. -/
structure Post where
  id : ThreadId
  occurrence : Occurrence
  /-- The thread's signals when the call is made. -/
  found : SignalState
  /-- The threads that have a sweep in progress when the call is made. -/
  sweeping : List ThreadId

/-- A moment of a run. -/
inductive Moment where
  | passed (point : Point)
  /-- A call that posts is made. -/
  | posted (post : Post)
  /-- An occurrence is handed to the sink. -/
  | delivered (delivery : Delivery)
  /-- A sweep of a thread is over and leaves the thread's signals like this. -/
  | swept (id : ThreadId) (left : SignalState)

end SignalKernel.Program
