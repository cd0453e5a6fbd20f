/-!
# Why a signal call fails

Errors are causes. `message` gives the text that records show and `errno` the code that entry points
leave in the calling thread's error cell.
-/

namespace SignalKernel

/-- A code in a thread's error cell; 0 after no failure. -/
abbrev Errno := Int

namespace Errno

/-- No thread has the given identity. -/
def noSuchThread : Errno := 3

/-- A resource is used up for now. -/
def tryAgain : Errno := 11

/-- An argument is out of range. -/
def invalidArgument : Errno := 22

end Errno

/-- Why a change of a signal mask fails. -/
inductive MaskError where
  /-- The mode is not one of the three known. -/
  | invalidMode
deriving DecidableEq

/-- Why posting a signal, or changing one member of a set, fails. -/
inductive SignalError where
  /-- The number names no signal. -/
  | invalidSignal
  /-- Every record slot of the target is in use. -/
  | queueFull
  /-- No thread has the given identity. -/
  | noSuchThread
deriving DecidableEq

namespace MaskError

/-- The error's text. -/
def message : MaskError → String
  | invalidMode => "invalid signal mask operation"

/-- The error's code. -/
def errno : MaskError → Errno
  | invalidMode => Errno.invalidArgument

end MaskError

namespace SignalError

/-- The error's text. -/
def message : SignalError → String
  | invalidSignal => "invalid signal number"
  | queueFull => "pending signal queue is full"
  | noSuchThread => "no such thread"

/-- The error's code. -/
def errno : SignalError → Errno
  | invalidSignal => Errno.invalidArgument
  | queueFull => Errno.tryAgain
  | noSuchThread => Errno.noSuchThread

end SignalError

end SignalKernel
