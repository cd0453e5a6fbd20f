import SignalKernel.Interrupt.Core
import SignalKernel.Logging.Line
import SignalKernel.SignalSet.Basic
import SignalKernel.Signal.Error
import SignalKernel.Signal.Occurrence
import SignalKernel.Thread.Config

/-!
# Calls that a program makes

A program uses the kernel through these calls, in its own run and in the handlers that deliveries
start. A call that concerns a thread may leave the thread out and then concerns the one that runs.
Locks, saved flags and critical sections are kept by the program and named by the order in which it
obtained them, counted from 0.
-/

namespace SignalKernel.Program

/-- Calls on threads and the scheduler. -/
inductive SchedulingCall where
  /-- Create a thread. -/
  | spawn (config : ThreadConfig)
  /-- Ask which thread runs. -/
  | current
  /-- Let a thread run. -/
  | setCurrent (id : ThreadId)
  /-- Ask for a reschedule. -/
  | requestResched
  /-- Ask whether a reschedule was asked for. -/
  | isReschedRequested
  /-- Ask how many switches there were. -/
  | contextSwitches
  /-- Pass a preemption point. -/
  | preemptionPoint
  /-- Let the next waiting thread run. -/
  | schedule
  /-- Take a level of a thread's scheduler lock and keep it. -/
  | lock (id : Option ThreadId)
  /-- Give a kept level back. -/
  | unlock (index : Nat)
  /-- Ask for the depth of a thread's scheduler lock. -/
  | lockDepth (id : Option ThreadId)
  /-- Write a thread out. -/
  | describe (id : Option ThreadId)

/-- Calls on signals. -/
inductive SignalCall where
  /-- Change a thread's mask. The mask found is told if it is wanted. -/
  | changeMask (id : Option ThreadId) (how : Int) (set : Option SignalSet) (wantsOld : Bool)
  /-- The running thread changes its mask. -/
  | sigprocmask (how : Int) (set : Option SignalSet) (wantsOld : Bool)
  /-- The running thread asks what is pending. -/
  | sigpending
  /-- The running thread sends a signal. -/
  | kill (id : ThreadId) (signal : Nat)
  /-- The running thread sends a signal with a value. -/
  | sigqueue (id : ThreadId) (signal : Nat) (value : UInt64)
  /-- Post an occurrence. -/
  | post (id : Option ThreadId) (o : Occurrence)
  /-- Deliver what is not blocked. -/
  | sweep (id : Option ThreadId)
  /-- Hand an occurrence to the sink for the running thread, whatever is blocked. -/
  | deliver (o : Occurrence)
  /-- Read a thread's error cell. -/
  | errno (id : Option ThreadId)
  /-- Write a thread's error cell. -/
  | setErrno (id : Option ThreadId) (errno : Errno)
  /-- Read a thread's signal state. -/
  | state (id : Option ThreadId)
  /-- Ask about one signal of a thread. -/
  | query (id : Option ThreadId) (signal : Nat)
  /-- Replace a thread's signal state by that of a new thread. -/
  | resetState (id : Option ThreadId) (mask : SignalSet) (capacity : Nat)

/-- Calls on the log. -/
inductive LogCall where
  /-- Set the threshold. -/
  | setThreshold (threshold : Threshold)
  /-- Ask whether records of a level are logged. -/
  | isEnabled (level : Level)
  /-- Log a record. -/
  | log (record : Record)
  /-- Wait until all records are written. -/
  | flush
  /-- Attach the console. -/
  | attach
  /-- Read the boot buffer. -/
  | buffered
  /-- Ask how many bytes the boot buffer holds. -/
  | bufferedSize
  /-- Make the logger the log's backend. -/
  | install (threshold : Threshold)

/-- Calls on interrupts: those of the core, and those of a second core that is a single flag. -/
inductive InterruptCall where
  /-- Ask for the state of the core. -/
  | status
  | enable
  | disable
  /-- Mask interrupts and keep the flags. -/
  | save
  /-- Restore kept flags. They may be restored again. -/
  | restore (index : Nat)
  /-- Enter a critical section and keep it. -/
  | enter
  /-- Leave a kept critical section. -/
  | leave (index : Nat)
  /-- Add to a cell in a critical section. -/
  | addToCell (value : UInt64)
  /-- Set the cell without a critical section. -/
  | setCell (value : UInt64)
  | flagStatus
  | flagEnable
  /-- Mask the second core's interrupts and keep the flags. -/
  | flagSave
  /-- Restore kept flags on the second core. -/
  | flagRestore (index : Nat)

/-- A call of a program. -/
inductive Call where
  | scheduling (call : SchedulingCall)
  | signal (call : SignalCall)
  | log (call : LogCall)
  | interrupt (call : InterruptCall)
  /-- Make calls with the core's interrupts masked, as an interrupt handler does. -/
  | masked (calls : List Call)
  /-- Make calls with the second core's interrupts masked. -/
  | flagMasked (calls : List Call)
  /-- A call that nobody knows; it does nothing. -/
  | unknown

end SignalKernel.Program
