import SignalKernel.Kernel.Masking

/-!
# Entry points of the running thread

These calls act for the thread that runs when they are made. Their caller sees a status, and a
failure leaves its reason in that thread's error cell, even if another thread runs by the time the
call ends.
-/

namespace SignalKernel.Kernel

variable {γ : Type}

/-- How an entry point ends for its caller. -/
inductive Status where
  | ok
  /-- The reason is in the error cell of the thread that made the call. -/
  | failed
deriving DecidableEq

namespace Status

/-- The status as a number. -/
def code : Status → Int
  | ok => 0
  | failed => -1

/-- The status that an outcome has. -/
def ofOutcome {ε α : Type} : Except ε α → Status
  | .ok _ => ok
  | .error _ => failed

end Status

/-- Leave the reason of a failure in a thread's error cell. Success leaves the cell as it is. -/
def storeErrno {ε α : Type} (id : ThreadId) (errno : ε → Errno) (outcome : Except ε α) :
    KernelM γ Unit :=
  match outcome with
  | .ok _ => pure ()
  | .error error => modifyThread id fun thread ↦ { thread with errno := errno error }

/-- Examine and change the running thread's mask. -/
def sigprocmask (sink : Sink γ) (how : Int) (set : Option SignalSet) : KernelM γ MaskReply := do
  let caller ← current
  let reply ← changeMask sink caller.id how set
  storeErrno caller.id MaskError.errno reply.outcome
  pure reply

/-- The signals that are pending on the running thread. This never fails. -/
def sigpending : KernelM γ SignalSet := do
  let caller ← current
  readSignals caller.id (·.pending)

/-- Post an occurrence to a thread that may not exist. Signal 0 is never posted and only tests that
the thread exists, so nothing becomes of it. -/
def postTo (sink : Sink γ) (id : ThreadId) (o : Occurrence) :
    KernelM γ (Except SignalError (Option Fate)) := do
  match ← find? id with
  | none =>
      notify (.targetUnknown id)
      pure (.error .noSuchThread)
  | some target =>
      if o.signal = 0 then pure (.ok none)
      else
        match ← post sink target.id o with
        | .ok fate => pure (.ok (some fate))
        | .error error =>
            notify (.postRefused o.signal id error)
            pure (.error error)

/-- Send what the running thread makes to a thread. -/
def send (sink : Sink γ) (id : ThreadId) (occurrence : ThreadId → Occurrence) :
    KernelM γ (Except SignalError (Option Fate)) := do
  let caller ← current
  let outcome ← postTo sink id (occurrence caller.id)
  storeErrno caller.id SignalError.errno outcome
  pure outcome

/-- Send a plain signal to a thread. -/
def kill (sink : Sink γ) (id : ThreadId) (signal : Nat) :
    KernelM γ (Except SignalError (Option Fate)) :=
  send sink id (.plain signal)

/-- Send a signal that carries a value to a thread. -/
def sigqueue (sink : Sink γ) (id : ThreadId) (signal : Nat) (value : UInt64) :
    KernelM γ (Except SignalError (Option Fate)) :=
  send sink id fun sender ↦ .carrying signal sender value

end SignalKernel.Kernel
