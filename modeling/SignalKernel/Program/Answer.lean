import SignalKernel.Kernel.Entry

/-!
# Answers to the calls of a program

An answer holds what can be seen of a call from outside.
-/

namespace SignalKernel.Program

open SignalKernel.Kernel SignalKernel.Text

/-- The records of one pending signal: how many there are, and the oldest. -/
structure PendingList where
  signal : Nat
  count : Nat
  oldest : Option Occurrence

/-- What can be seen of a thread's signals in one critical section. -/
structure SignalView where
  blocked : SignalSet
  pending : SignalSet
  deliverable : SignalSet
  hasDeliverable : Bool
  nextDeliverable : Option Nat
  size : Nat
  queueCapacity : Nat
  threadCapacity : Nat
  isFull : Bool
  isEmpty : Bool
  lists : List PendingList
  interruptDepth : UInt64

/-- The answer to a call. -/
inductive Answer where
  /-- The call tells nothing. -/
  | done
  /-- Nobody knows the call. -/
  | unknown
  /-- There is no such thread. -/
  | noThread
  /-- No flags were kept under that index. -/
  | noFlags
  | truth (value : Bool)
  | number (value : Nat)
  | errno (value : Errno)
  | text (value : String)
  | set (value : SignalSet)
  | spawned (id : ThreadId) (name : String) (capacity : Nat) (mask : SignalSet)
  | running (id : ThreadId) (name : String)
  | switched (switch : Option Switch)
  | described (name : String) (display : Display)
  /-- The outcome of a change of a mask, the mask found if it was wanted, and the mask after it. -/
  | masked (outcome : Except MaskError Unit) (old : Option SignalSet) (mask : SignalSet)
  /-- The same for an entry point, with the caller's error cell. -/
  | maskStatus (status : Status) (old : Option SignalSet) (errno : Errno) (mask : SignalSet)
  | pendingStatus (status : Status) (pending : SignalSet)
  | sent (status : Status) (errno : Errno)
  | posted (outcome : Except SignalError Fate)
  | signals (view : SignalView)
  | signal (isBlocked isPending : Bool) (list : PendingList)
  | buffered (text : String) (interruptDepth : UInt64)
  /-- The logger cannot be made the backend; the threshold in force is told. -/
  | installRefused (error : InstallError) (threshold : Threshold)
  | core (depth : UInt64) (isEnabled : Bool) (number : UInt64)
  /-- A truth value, and the interrupt depth after the call. -/
  | atDepth (value : Bool) (depth : UInt64)
  /-- The cell's value, and the interrupt depth in the critical section. -/
  | cell (value depth : UInt64)
  /-- Whether the second core's interrupts were enabled, and whether they are. -/
  | flagSaved (wereEnabled isEnabled : Bool)
  | several (answers : List Answer)
  /-- The answers to calls with the second core's interrupts masked, and whether they are enabled
  afterwards. -/
  | flagMasked (answers : List Answer) (isEnabled : Bool)

end SignalKernel.Program
