import SignalKernel.Mask
import SignalKernel.Pending.Queue

/-!
# The signal state of one thread

A thread's signal state is its blocked mask and its pending queue. `receive` decides what becomes of
a posted occurrence: one that is not blocked is to be delivered at once, a standard signal that is
pending already absorbs it, and otherwise it is queued. `takeUnblocked` never hands out a blocked
signal. The main statement is `changeMask_eq`: as long as kill and stop are not blocked, all three
modes give `combine` less the two signals that no mask may hold.
-/

namespace SignalKernel

/-- A thread's blocked mask and pending occurrences. -/
structure SignalState where
  blocked : SignalSet
  queue : PendingQueue

/-- What becomes of a posted occurrence that is not refused. -/
inductive Fate where
  /-- It is delivered at once. -/
  | delivered
  /-- It is recorded as pending. -/
  | queued
  /-- It merges into an occurrence that is pending already. -/
  | coalesced
deriving DecidableEq

namespace SignalState

/-- The state of a new thread with a mask and a number of record slots. -/
def ofMask (mask : SignalSet) (capacity : Nat) : SignalState where
  blocked := mask \ .unblockable
  queue := .ofCapacity capacity

/-- The signals with a pending occurrence. -/
def pending (s : SignalState) : SignalSet :=
  s.queue.pending

/-- The pending signals that are not blocked. -/
def deliverable (s : SignalState) : SignalSet :=
  s.pending \ s.blocked

/-- Some pending signal is not blocked. -/
def hasDeliverable (s : SignalState) : Bool :=
  !s.deliverable.isEmpty

/-- The signal is blocked. -/
def isBlocked (s : SignalState) (signal : Nat) : Bool :=
  s.blocked.contains signal

/-- The signal has a pending occurrence. -/
def isPending (s : SignalState) (signal : Nat) : Bool :=
  s.pending.contains signal

/-- Change the mask. Taking signals out of a mask cannot bring kill or stop into it, so that mode
leaves the check out. -/
def changeMask (s : SignalState) (mode : MaskMode) (set : SignalSet) : SignalState :=
  match mode with
  | .block => { s with blocked := mode.combine s.blocked set \ .unblockable }
  | .unblock => { s with blocked := mode.combine s.blocked set }
  | .setExactly => { s with blocked := mode.combine s.blocked set \ .unblockable }

/-- Record an occurrence of a blocked signal. A standard signal that is pending already keeps its
first record; a realtime signal has one record for each occurrence. -/
def enqueue (s : SignalState) (o : Occurrence) : Except SignalError Fate × SignalState :=
  if !Signal.isRealtime o.signal && s.isPending o.signal then (.ok .coalesced, s)
  else
    let { blocked, queue } := s
    match queue.push o with
    | (.error error, queue) => (.error error, { blocked, queue })
    | (.ok (), queue) => (.ok .queued, { blocked, queue })

/-- Decide what becomes of a posted occurrence, and record it if it is blocked. -/
def receive (s : SignalState) (o : Occurrence) : Except SignalError Fate × SignalState :=
  if s.isBlocked o.signal then s.enqueue o else (.ok .delivered, s)

/-- Take the oldest record of a signal unless the signal is blocked. -/
def takeUnblocked (s : SignalState) (signal : Nat) : Option Occurrence × SignalState :=
  if s.isBlocked signal then (none, s)
  else
    let { blocked, queue } := s
    let (taken, queue) := queue.pop signal
    (taken, { blocked, queue })

/-- No change of the mask touches the queue. -/
@[simp] theorem queue_changeMask (s : SignalState) (mode : MaskMode) (set : SignalSet) :
    (s.changeMask mode set).queue = s.queue := by
  cases mode <;> rfl

/-- As long as a mask holds neither kill nor stop, every mode gives what it makes of the mask and
the set, less those two. -/
theorem changeMask_eq {s : SignalState} (hmask : s.blocked ∩ .unblockable = ∅) (mode : MaskMode)
    (set : SignalSet) :
    (s.changeMask mode set).blocked = mode.combine s.blocked set \ .unblockable := by
  cases mode with
  | block => rfl
  | setExactly => rfl
  | unblock =>
      apply SignalSet.ext_mem
      intro signal
      have hnone := congrArg (signal ∈ ·) hmask
      simp only [SignalSet.mem_inter, SignalSet.not_mem_empty, eq_iff_iff, iff_false] at hnone
      simp only [changeMask, MaskMode.combine, SignalSet.mem_sdiff]
      grind

end SignalState

end SignalKernel
