import SignalKernel.Logging.Line
import SignalKernel.Mask
import SignalKernel.Signal.Occurrence
import SignalKernel.SignalSet.Display

/-!
# What the kernel logs about itself

Each notice is an event in the kernel's own work. `record` gives it its level, the part of the
kernel it comes from, and its words.
-/

namespace SignalKernel

/-- An event that the kernel logs. -/
inductive Notice where
  /-- The scheduler exists. -/
  | schedulerCreated
  /-- A thread was created. -/
  | threadAdded (id : ThreadId) (name : String) (capacity : Nat)
  /-- Another thread was made to run. -/
  | switched (before after : ThreadId)
  /-- A change of a mask named no mode. -/
  | modeRefused (how : Int) (id : ThreadId)
  /-- A mask was changed. -/
  | maskChanged (id : ThreadId) (before after : SignalSet) (mode : MaskMode) (set : SignalSet)
  /-- A sweep took a record out of a queue. -/
  | recordTaken (id : ThreadId) (o : Occurrence)
  /-- An occurrence is handed to the sink. -/
  | delivering (signal : Nat) (id : ThreadId)
  /-- An occurrence had nobody to go to. -/
  | discarded (signal : Nat) (id : ThreadId)
  /-- A posted occurrence was queued. -/
  | queued (signal : Nat) (id : ThreadId)
  /-- A posted occurrence merged into a pending one. -/
  | coalesced (signal : Nat) (id : ThreadId)
  /-- A signal was posted to a thread that does not exist. -/
  | targetUnknown (id : ThreadId)
  /-- A posted signal was refused. -/
  | postRefused (signal : Nat) (id : ThreadId) (error : SignalError)

namespace Notice

/-- How important the event is. -/
def level : Notice → Level
  | schedulerCreated | threadAdded .. => .info
  | switched .. | maskChanged .. | delivering .. | discarded .. => .debug
  | modeRefused .. | targetUnknown .. | postRefused .. => .warn
  | recordTaken .. | queued .. | coalesced .. => .trace

/-- The part of the kernel that the event comes from. -/
def target : Notice → String
  | schedulerCreated | threadAdded .. | switched .. => "rtsig::task::scheduler"
  | modeRefused .. | maskChanged .. | recordTaken .. => "rtsig::signal::procmask"
  | delivering .. | discarded .. | queued .. | coalesced .. => "rtsig::signal::delivery"
  | targetUnknown .. | postRefused .. => "rtsig::syscall::signal"

/-- The event in words. -/
def message : Notice → String
  | schedulerCreated => "Scheduler initialized"
  | threadAdded id name capacity =>
      s!"Added thread {id} '{name}' to scheduler (pending slots: {capacity})"
  | switched before after => s!"Scheduling: {before} -> {after}"
  | modeRefused how id => s!"procmask: invalid 'how' value {how} for thread {id}"
  | maskChanged id before after mode set =>
      s!"Thread {id} mask " ++ before.display.compact ++ " -> " ++ after.display.compact
        ++ " (" ++ mode.name ++ " " ++ set.display.compact ++ ")"
  | recordTaken id o => s!"unmask sweep: thread {id} record " ++ o.display.compact
  | delivering signal id => s!"Delivering signal {signal} (" ++ Signal.name signal
      ++ s!") to thread {id}"
  | discarded signal id => s!"Signal {signal} (" ++ Signal.name signal
      ++ s!") to thread {id} discarded: no dispatcher"
  | queued signal id => s!"Signal {signal} blocked by thread {id}, queued"
  | coalesced signal id => s!"Signal {signal} already pending on thread {id}, coalesced"
  | targetUnknown id => s!"kill: no thread {id}"
  | postRefused signal id error =>
      s!"kill: signal {signal} to thread {id} failed: " ++ error.message

/-- The event as a record of the log. -/
def record (notice : Notice) : Record :=
  ⟨notice.level, notice.target, notice.message⟩

end Notice

end SignalKernel
