import SignalKernel.Pending.BoundedQueue
import SignalKernel.Signal.Error
import SignalKernel.Signal.Occurrence
import SignalKernel.SignalSet.Basic

/-!
# The queue of pending occurrences

A thread's pending queue is sized when the thread is created and never grows, because posting from
an interrupt handler must not allocate. Records live in an arena of slots. Each signal has a list of
its own through the arena, the oldest record first: `heads` and `tails` hold the ends of the lists
and every slot links to the next one. Slots that hold no record wait in the queue `free`.

A link is a slot's index in 16 bits, or `endOfList`. That value is no index, because an arena has at
most 65535 slots. The set `pending` holds exactly the signals whose list has a record.
-/

namespace SignalKernel

/-- A place for one record, with the link to the next record of the same signal. -/
structure Slot where
  occurrence : Occurrence
  next : UInt16

/-- The records of one thread's pending occurrences. -/
structure PendingQueue where
  slots : Array Slot
  heads : Vector UInt16 64
  tails : Vector UInt16 64
  counts : Vector UInt16 64
  free : BoundedQueue UInt16
  pending : SignalSet

namespace PendingQueue

/-- The link that ends a list. -/
def endOfList : UInt16 := 65535

/-- The highest number of slots: one less than there are links. -/
def maxCapacity : Nat := 65535

/-- The number of slots for a requested capacity: at least one and at most `maxCapacity`. -/
def clampCapacity (requested : Nat) : Nat :=
  max 1 (min requested maxCapacity)

/-- A queue without records. Its slots are free in the order of their indices. -/
def ofCapacity (requested : Nat) : PendingQueue where
  slots := Array.replicate (clampCapacity requested) ⟨Occurrence.blank, endOfList⟩
  heads := Vector.replicate 64 endOfList
  tails := Vector.replicate 64 endOfList
  counts := Vector.replicate 64 0
  free := .filled ((List.range (clampCapacity requested)).map Nat.toUInt16)
  pending := ∅

/-- The number of slots. -/
def capacity (q : PendingQueue) : Nat :=
  q.slots.size

/-- The index of the slot that a list starts with. -/
def head (q : PendingQueue) (lane : Fin 64) : UInt16 :=
  q.heads[lane]

/-- The index of the slot that a list ends with. -/
def tail (q : PendingQueue) (lane : Fin 64) : UInt16 :=
  q.tails[lane]

/-- The number of records. -/
def size (q : PendingQueue) : Nat :=
  q.capacity - q.free.size

/-- There is no record. -/
def isEmpty (q : PendingQueue) : Bool :=
  q.pending.isEmpty

/-- Every slot holds a record. -/
def isFull (q : PendingQueue) : Bool :=
  q.free.isEmpty

/-- The number of a signal's records. -/
def count (q : PendingQueue) (signal : Nat) : Nat :=
  match Signal.lane? signal with
  | none => 0
  | some lane => q.counts[lane].toNat

/-- The oldest record of a signal. -/
def peek? (q : PendingQueue) (signal : Nat) : Option Occurrence :=
  match Signal.lane? signal with
  | none => none
  | some lane =>
      let head := q.head lane
      if head = endOfList then none
      else q.slots[head.toNat]?.map Slot.occurrence

/-- Put an occurrence into the slot `index` and link the slot behind the last record of a list. The
slot is the list's new head if the list has no record yet. -/
def append (q : PendingQueue) (lane : Fin 64) (index : UInt16) (o : Occurrence) : PendingQueue :=
  let tail := q.tail lane
  let { slots, heads, tails, counts, free, pending } := q
  let stored := slots.setIfInBounds index.toNat ⟨o, endOfList⟩
  { slots :=
      if tail = endOfList then stored
      else stored.modify tail.toNat fun slot ↦ { slot with next := index }
    heads := if tail = endOfList then heads.set lane index else heads
    tails := tails.set lane index
    counts := counts.set lane (counts[lane] + 1)
    free
    pending := pending ∪ .single o.signal }

/-- Add an occurrence behind the records of its signal. An invalid signal is refused first; then a
queue without a free slot refuses. A refusal leaves the queue as it was. -/
def push (q : PendingQueue) (o : Occurrence) : Except SignalError Unit × PendingQueue :=
  match Signal.lane? o.signal with
  | none => (.error .invalidSignal, q)
  | some lane =>
      match q.free.pop? with
      | none => (.error .queueFull, q)
      | some (index, free) => (.ok (), append { q with free } lane index o)

/-- Unlink the head `index` of a list, whose slot is `slot`, and give the slot back. The signal
stays pending exactly if the slot links to another record. -/
def dropHead (q : PendingQueue) (lane : Fin 64) (index : UInt16) (slot : Slot) : PendingQueue :=
  let { slots, heads, tails, counts, free, pending } := q
  { slots := slots.modify index.toNat fun slot ↦ { slot with next := endOfList }
    heads := heads.set lane slot.next
    tails := if slot.next = endOfList then tails.set lane endOfList else tails
    counts := counts.set lane (counts[lane] - 1)
    free := (free.push? index).getD free
    pending := if slot.next = endOfList then pending \ .single (Signal.ofLane lane) else pending }

/-- Take the oldest record of a signal. -/
def pop (q : PendingQueue) (signal : Nat) : Option Occurrence × PendingQueue :=
  match Signal.lane? signal with
  | none => (none, q)
  | some lane =>
      let head := q.head lane
      if head = endOfList then (none, q)
      else
        match q.slots[head.toNat]? with
        | none => (none, q)
        | some slot => (some slot.occurrence, q.dropHead lane head slot)

/-- A fresh queue has as many slots as its capacity says. -/
@[simp] theorem capacity_ofCapacity (requested : Nat) :
    (ofCapacity requested).capacity = clampCapacity requested := by
  simp [ofCapacity, capacity]

/-- Linking a record changes no slot count. -/
@[simp] theorem capacity_append (q : PendingQueue) (lane : Fin 64) (index : UInt16)
    (o : Occurrence) : (q.append lane index o).capacity = q.capacity := by
  unfold append capacity
  simp only
  split <;> simp

/-- Pushing changes no slot count. -/
@[simp] theorem capacity_push (q : PendingQueue) (o : Occurrence) :
    (q.push o).2.capacity = q.capacity := by
  unfold push
  split
  · rfl
  · split
    · rfl
    · rw [capacity_append]
      rfl

/-- Unlinking a record changes no slot count. -/
@[simp] theorem capacity_dropHead (q : PendingQueue) (lane : Fin 64) (index : UInt16)
    (slot : Slot) : (q.dropHead lane index slot).capacity = q.capacity := by
  simp [dropHead, capacity]

/-- Popping changes no slot count. -/
@[simp] theorem capacity_pop (q : PendingQueue) (signal : Nat) :
    (q.pop signal).2.capacity = q.capacity := by
  unfold pop
  split
  · rfl
  · simp only
    split
    · rfl
    · split
      · rfl
      · rw [capacity_dropHead]

end PendingQueue

end SignalKernel
