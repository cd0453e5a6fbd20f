import SignalKernel.Pending.Queue

/-!
# Calls on a pending queue

A queue is used by a sequence of calls, each of which has an answer. Two of the calls push or pop
many times and stop at the first refusal.
-/

namespace SignalKernel.PendingQueue

/-- A use of the queue. -/
inductive Call where
  /-- Push one occurrence. -/
  | push (o : Occurrence)
  /-- Push an occurrence `times` times, its value one higher each time. -/
  | pushMany (o : Occurrence) (times : Nat)
  /-- Pop one record of a signal. -/
  | pop (signal : Nat)
  /-- Pop a signal's records, at most `times` of them. -/
  | popMany (signal times : Nat)
  /-- Ask for the oldest record of a signal. -/
  | peek (signal : Nat)
  /-- Ask for the number of a signal's records. -/
  | count (signal : Nat)
  /-- A call that nobody knows; it does nothing. -/
  | unknown

/-- What many pops brought. -/
structure Harvest where
  /-- How many records were popped. -/
  popped : Nat := 0
  /-- Their values added up, as a word. -/
  sum : UInt64 := 0
  first : Option Occurrence := none
  last : Option Occurrence := none

/-- The harvest with one more record. -/
def Harvest.add (h : Harvest) (o : Occurrence) : Harvest where
  popped := h.popped + 1
  sum := h.sum + o.value
  first := h.first <|> some o
  last := some o

/-- The answer to a call. -/
inductive Answer where
  | pushed (outcome : Except SignalError Unit)
  /-- How many pushes succeeded, and what ended them early. -/
  | pushedMany (pushed : Nat) (ended : Option SignalError)
  | record (o : Option Occurrence)
  | harvest (h : Harvest)
  | number (n : Nat)
  /-- Nobody knows the call. -/
  | unknown

/-- Push again and again, at most `times` times, until a push is refused. -/
def pushMany (q : PendingQueue) (o : Occurrence) :
    (times pushed : Nat) → Nat × Option SignalError × PendingQueue
  | 0, pushed => (pushed, none, q)
  | times + 1, pushed =>
      match q.push o with
      | (.error error, after) => (pushed, some error, after)
      | (.ok (), after) => after.pushMany { o with value := o.value + 1 } times (pushed + 1)

/-- Pop again and again, at most `times` times, until no record is left. -/
def popMany (q : PendingQueue) (signal : Nat) : Nat → Harvest → Harvest × PendingQueue
  | 0, harvest => (harvest, q)
  | times + 1, harvest =>
      match q.pop signal with
      | (none, after) => (harvest, after)
      | (some o, after) => after.popMany signal times (harvest.add o)

/-- Carry out one call. -/
def answer (q : PendingQueue) : Call → Answer × PendingQueue
  | .push o =>
      let (outcome, after) := q.push o
      (.pushed outcome, after)
  | .pushMany o times =>
      let (pushed, ended, after) := q.pushMany o times 0
      (.pushedMany pushed ended, after)
  | .pop signal =>
      let (popped, after) := q.pop signal
      (.record popped, after)
  | .popMany signal times =>
      let (harvest, after) := q.popMany signal times {}
      (.harvest harvest, after)
  | .peek signal => (.record (q.peek? signal), q)
  | .count signal => (.number (q.count signal), q)
  | .unknown => (.unknown, q)

/-- What can be seen of a queue from outside, its lists apart. -/
structure Summary where
  size : Nat
  isEmpty : Bool
  isFull : Bool
  pending : SignalSet

/-- The queue's summary. -/
def summary (q : PendingQueue) : Summary :=
  ⟨q.size, q.isEmpty, q.isFull, q.pending⟩

/-- Carry out the calls in order, keeping each answer together with the queue's summary after it. -/
def answers (q : PendingQueue) : List Call → List (Answer × Summary)
  | [] => []
  | call :: rest =>
      let (given, after) := q.answer call
      (given, after.summary) :: after.answers rest

end SignalKernel.PendingQueue
