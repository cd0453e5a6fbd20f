import SignalKernel.Pending.Calls
import SignalKernel.Proofs.Pending.Records

/-!
# A pending queue behaves like lists that share a budget

`SharedLists` is what a pending queue stands for: a plain list of records for each signal, with one
bound on the number of records in all lists together. The main theorem, `behaves_like_lists`, says
that no sequence of calls tells a queue from such lists, and that after any sequence of calls
everything that can be asked of the queue has the answer that the lists give.
-/

namespace SignalKernel

/-- The number of records in all lists. -/
@[irreducible]
def totalLength {ι : Type} [Fintype ι] (lists : ι → List Occurrence) : Nat :=
  ∑ lane, (lists lane).length

/-- A list of records for each signal, and the number of records that all lists together may
hold. -/
@[ext]
structure SharedLists where
  budget : Nat
  list : Fin 64 → List Occurrence

namespace SharedLists

open PendingQueue (Answer Call Harvest Summary)

/-- Empty lists. -/
def ofBudget (budget : Nat) : SharedLists :=
  ⟨budget, fun _ ↦ []⟩

/-- The list of a signal; empty if the number names none. -/
def records (l : SharedLists) (signal : Nat) : List Occurrence :=
  match Signal.lane? signal with
  | none => []
  | some lane => l.list lane

/-- The number of records. -/
def total (l : SharedLists) : Nat :=
  totalLength l.list

/-- The signals whose list is not empty. -/
def pending (l : SharedLists) : SignalSet :=
  .ofList (((List.finRange 64).filter fun lane ↦ !(l.list lane).isEmpty).map Signal.ofLane)

/-- Append an occurrence to the list of its signal. An invalid signal is refused first; then lists
that have used up their budget refuse. -/
def push (l : SharedLists) (o : Occurrence) : Except SignalError Unit × SharedLists :=
  match Signal.lane? o.signal with
  | none => (.error .invalidSignal, l)
  | some lane =>
      if l.total = l.budget then (.error .queueFull, l)
      else (.ok (), { l with list := Function.update l.list lane (l.list lane ++ [o]) })

/-- Take the head of a signal's list. -/
def pop (l : SharedLists) (signal : Nat) : Option Occurrence × SharedLists :=
  match Signal.lane? signal with
  | none => (none, l)
  | some lane =>
      match l.list lane with
      | [] => (none, l)
      | o :: rest => (some o, { l with list := Function.update l.list lane rest })

/-- Push again and again, at most `times` times, until a push is refused. -/
def pushMany (l : SharedLists) (o : Occurrence) :
    (times pushed : Nat) → Nat × Option SignalError × SharedLists
  | 0, pushed => (pushed, none, l)
  | times + 1, pushed =>
      match l.push o with
      | (.error error, after) => (pushed, some error, after)
      | (.ok (), after) => after.pushMany { o with value := o.value + 1 } times (pushed + 1)

/-- Pop again and again, at most `times` times, until no record is left. -/
def popMany (l : SharedLists) (signal : Nat) : Nat → Harvest → Harvest × SharedLists
  | 0, harvest => (harvest, l)
  | times + 1, harvest =>
      match l.pop signal with
      | (none, after) => (harvest, after)
      | (some o, after) => after.popMany signal times (harvest.add o)

/-- Carry out one call. -/
def answer (l : SharedLists) : Call → Answer × SharedLists
  | .push o =>
      let (outcome, after) := l.push o
      (.pushed outcome, after)
  | .pushMany o times =>
      let (pushed, ended, after) := l.pushMany o times 0
      (.pushedMany pushed ended, after)
  | .pop signal =>
      let (popped, after) := l.pop signal
      (.record popped, after)
  | .popMany signal times =>
      let (harvest, after) := l.popMany signal times {}
      (.harvest harvest, after)
  | .peek signal => (.record (l.records signal).head?, l)
  | .count signal => (.number (l.records signal).length, l)
  | .unknown => (.unknown, l)

/-- The sizes and the pending set, as the lists have them. -/
def summary (l : SharedLists) : Summary where
  size := l.total
  isEmpty := l.total == 0
  isFull := l.total == l.budget
  pending := l.pending

/-- Carry out the calls in order, keeping each answer together with the summary after it. -/
def answers (l : SharedLists) : List Call → List (Answer × Summary)
  | [] => []
  | call :: rest =>
      let (given, after) := l.answer call
      (given, after.summary) :: after.answers rest

/-- The lists after some calls. -/
def after (l : SharedLists) : List Call → SharedLists
  | [] => l
  | call :: rest => (l.answer call).2.after rest

theorem mem_pending {l : SharedLists} {signal : Nat} :
    signal ∈ l.pending ↔ l.records signal ≠ [] := by
  unfold records
  cases hlane : Signal.lane? signal with
  | none =>
      refine ⟨fun hmem ↦ ?_, fun hne ↦ absurd rfl hne⟩
      have hvalid := SignalSet.isValid_of_mem hmem
      rw [Signal.isValid_iff_lane?, hlane] at hvalid
      cases hvalid
  | some lane =>
      rw [← Signal.ofLane_of_lane? hlane]
      simp [pending, Signal.ofLane_inj]

end SharedLists

namespace PendingQueue

/-- The lists that a queue stands for. -/
def lists (q : PendingQueue) : SharedLists :=
  ⟨q.capacity, fun lane ↦ q.records (Signal.ofLane lane)⟩

/-- The queue after some calls. -/
def after (q : PendingQueue) : List Call → PendingQueue
  | [] => q
  | call :: rest => (q.answer call).2.after rest

@[simp] theorem budget_lists (q : PendingQueue) : q.lists.budget = q.capacity := rfl

/-- The list of a signal has the records that a walk along its links finds. -/
theorem records_lists (q : PendingQueue) (signal : Nat) :
    q.lists.records signal = q.records signal := by
  unfold SharedLists.records
  cases hlane : Signal.lane? signal with
  | none => exact (records_of_lane? hlane).symm
  | some lane =>
      rw [← Signal.ofLane_of_lane? hlane]
      rfl

theorem lists_ofCapacity (requested : Nat) :
    (ofCapacity requested).lists = .ofBudget (clampCapacity requested) := by
  ext lane
  · exact capacity_ofCapacity requested
  · simp [lists, SharedLists.ofBudget]

/-! ## What the lists say about sizes -/

section Sizes

variable {q : PendingQueue} (hq : q.Sound)
include hq

/-- Records and free slots together are as many as the queue has slots, so no slot gets lost. -/
theorem total_add_free : q.lists.total + q.free.size = q.capacity := by
  obtain ⟨chains, hchains⟩ := hq
  have hlengths : (fun lane ↦ (q.lists.list lane).length) = fun lane ↦ (chains lane).length := by
    funext lane
    rw [show q.lists.list lane = q.records (Signal.ofLane lane) from rfl, hchains.records_ofLane,
      List.length_map]
  rw [← hchains.sum_length, SharedLists.total, totalLength, hlengths]

theorem size_eq : q.size = q.lists.total := by
  have htotal := total_add_free hq
  unfold size
  omega

theorem isFull_iff_total : q.isFull ↔ q.lists.total = q.capacity := by
  have htotal := total_add_free hq
  rw [isFull, BoundedQueue.isEmpty, beq_iff_eq]
  omega

theorem pending_eq : q.pending = q.lists.pending := by
  apply SignalSet.ext_mem
  intro signal
  rw [mem_pending hq, SharedLists.mem_pending, records_lists]

/-- There are no records exactly if no signal is pending. -/
theorem isEmpty_iff_total : q.isEmpty ↔ q.lists.total = 0 := by
  rw [isEmpty, SignalSet.isEmpty_iff, SharedLists.total, totalLength, Finset.sum_eq_zero_iff]
  constructor
  · intro hempty lane _
    have hmem : Signal.ofLane lane ∉ q.pending := by
      rw [hempty]
      exact SignalSet.not_mem_empty _
    rw [mem_pending hq, not_not] at hmem
    exact List.length_eq_zero_iff.2 hmem
  · intro hzero
    apply SignalSet.ext_mem
    intro signal
    refine iff_of_false (fun hmem ↦ ?_) (SignalSet.not_mem_empty signal)
    have hvalid := SignalSet.isValid_of_mem hmem
    rw [Signal.isValid_iff_lane?] at hvalid
    obtain ⟨lane, hlane⟩ := Option.isSome_iff_exists.1 hvalid
    rw [← Signal.ofLane_of_lane? hlane, mem_pending hq] at hmem
    exact hmem (List.length_eq_zero_iff.1 (hzero lane (Finset.mem_univ lane)))

theorem summary_eq : q.summary = q.lists.summary := by
  unfold summary SharedLists.summary
  rw [size_eq hq, pending_eq hq, Bool.eq_iff_iff.2 ((isEmpty_iff_total hq).trans beq_iff_eq.symm),
    Bool.eq_iff_iff.2 ((isFull_iff_total hq).trans beq_iff_eq.symm), budget_lists]

end Sizes

/-! ## Calls -/

section Calls

variable {q : PendingQueue}

/-- Pushing is pushing onto the lists. -/
theorem lists_push (hq : q.Sound) (o : Occurrence) :
    q.lists.push o = ((q.push o).1, (q.push o).2.lists) := by
  unfold SharedLists.push
  have houtcome := push_outcome q o
  cases hlane : Signal.lane? o.signal with
  | none =>
      have hvalid : Signal.isValid o.signal = false := by
        rw [← Bool.not_eq_true, Signal.isValid_iff_lane?, hlane]
        simp
      rw [hvalid, Bool.not_false, if_pos rfl] at houtcome
      rw [houtcome, push_of_error houtcome]
  | some lane =>
      have hvalid : Signal.isValid o.signal = true := by
        rw [Signal.isValid_iff_lane?, hlane]
        rfl
      rw [hvalid, Bool.not_true, if_neg Bool.false_ne_true] at houtcome
      by_cases hfull : q.lists.total = q.capacity
      · rw [if_pos ((isFull_iff_total hq).2 hfull)] at houtcome
        rw [houtcome, push_of_error houtcome]
        exact if_pos hfull
      · rw [if_neg fun h ↦ hfull ((isFull_iff_total hq).1 h)] at houtcome
        rw [houtcome]
        refine (if_neg hfull).trans (congrArg _ ?_)
        ext1
        · exact (capacity_push q o).symm
        · funext other
          show Function.update q.lists.list lane (q.records (Signal.ofLane lane) ++ [o]) other =
            (q.push o).2.records (Signal.ofLane other)
          rw [records_push hq houtcome, ← Signal.ofLane_of_lane? hlane]
          by_cases hother : other = lane
          · subst hother
            rw [Function.update_self, if_pos rfl]
          · rw [Function.update_of_ne hother, if_neg fun h ↦ hother (Signal.ofLane_inj.1 h)]
            rfl

/-- Popping is popping off the lists. -/
theorem lists_pop (hq : q.Sound) (signal : Nat) :
    q.lists.pop signal = ((q.pop signal).1, (q.pop signal).2.lists) := by
  have houtcome := pop_outcome hq signal
  have hrecords := records_pop hq signal
  have hsame (hempty : q.records signal = []) : q.lists = (q.pop signal).2.lists := by
    ext1
    · exact (capacity_pop q signal).symm
    · funext other
      show q.records (Signal.ofLane other) = (q.pop signal).2.records (Signal.ofLane other)
      rw [hrecords]
      split
      · rename_i hother
        rw [hother, hempty, List.tail_nil]
      · rfl
  unfold SharedLists.pop
  cases hlane : Signal.lane? signal with
  | none =>
      have hempty := records_of_lane? (q := q) hlane
      rw [houtcome, hempty, ← hsame hempty, List.head?_nil]
  | some lane =>
      have hsignal := Signal.ofLane_of_lane? hlane
      subst hsignal
      cases hlist : q.lists.list lane with
      | nil =>
          have hempty : q.records (Signal.ofLane lane) = [] := hlist
          simp only [hlist]
          rw [houtcome, hempty, ← hsame hempty, List.head?_nil]
      | cons o rest =>
          have hcons : q.records (Signal.ofLane lane) = o :: rest := hlist
          simp only [hlist]
          rw [houtcome, hcons, List.head?_cons]
          refine congrArg _ ?_
          ext1
          · exact (capacity_pop q _).symm
          · funext other
            show Function.update q.lists.list lane rest other =
              (q.pop (Signal.ofLane lane)).2.records (Signal.ofLane other)
            rw [hrecords, hcons, List.tail_cons]
            by_cases hother : other = lane
            · subst hother
              rw [Function.update_self, if_pos rfl]
            · rw [Function.update_of_ne hother, if_neg fun h ↦ hother (Signal.ofLane_inj.1 h)]
              rfl

theorem Sound.pushMany (hq : q.Sound) (o : Occurrence) (times pushed : Nat) :
    (q.pushMany o times pushed).2.2.Sound := by
  induction times generalizing q o pushed with
  | zero => exact hq
  | succ times ih =>
      have hafter := hq.push o
      rw [PendingQueue.pushMany]
      cases hpush : q.push o with
      | mk outcome after =>
          rw [hpush] at hafter
          cases outcome with
          | error error => exact hafter
          | ok _ => exact ih hafter _ _

theorem lists_pushMany (hq : q.Sound) (o : Occurrence) (times pushed : Nat) :
    q.lists.pushMany o times pushed =
      ((q.pushMany o times pushed).1, (q.pushMany o times pushed).2.1,
        (q.pushMany o times pushed).2.2.lists) := by
  induction times generalizing q o pushed with
  | zero => rfl
  | succ times ih =>
      have hafter := hq.push o
      rw [SharedLists.pushMany, PendingQueue.pushMany, lists_push hq]
      cases hpush : q.push o with
      | mk outcome after =>
          rw [hpush] at hafter
          cases outcome with
          | error error => rfl
          | ok _ => exact ih hafter _ _

theorem Sound.popMany (hq : q.Sound) (signal times : Nat) (harvest : Harvest) :
    (q.popMany signal times harvest).2.Sound := by
  induction times generalizing q harvest with
  | zero => exact hq
  | succ times ih =>
      have hafter := hq.pop signal
      rw [PendingQueue.popMany]
      cases hpop : q.pop signal with
      | mk popped after =>
          rw [hpop] at hafter
          cases popped with
          | none => exact hafter
          | some o => exact ih hafter _

theorem lists_popMany (hq : q.Sound) (signal times : Nat) (harvest : Harvest) :
    q.lists.popMany signal times harvest =
      ((q.popMany signal times harvest).1, (q.popMany signal times harvest).2.lists) := by
  induction times generalizing q harvest with
  | zero => rfl
  | succ times ih =>
      have hafter := hq.pop signal
      rw [SharedLists.popMany, PendingQueue.popMany, lists_pop hq]
      cases hpop : q.pop signal with
      | mk popped after =>
          rw [hpop] at hafter
          cases popped with
          | none => rfl
          | some o => exact ih hafter _

/-- No call makes a queue unsound. -/
theorem Sound.answer (hq : q.Sound) (call : Call) : (q.answer call).2.Sound := by
  cases call with
  | push o => exact hq.push o
  | pushMany o times => exact hq.pushMany o times 0
  | pop signal => exact hq.pop signal
  | popMany signal times => exact hq.popMany signal times {}
  | peek signal => exact hq
  | count signal => exact hq
  | unknown => exact hq

/-- A call on a queue is the same call on its lists. -/
theorem lists_answer (hq : q.Sound) (call : Call) :
    q.lists.answer call = ((q.answer call).1, (q.answer call).2.lists) := by
  cases call with
  | push o =>
      rw [SharedLists.answer, lists_push hq]
      rfl
  | pushMany o times =>
      rw [SharedLists.answer, lists_pushMany hq]
      rfl
  | pop signal =>
      rw [SharedLists.answer, lists_pop hq]
      rfl
  | popMany signal times =>
      rw [SharedLists.answer, lists_popMany hq]
      rfl
  | peek signal =>
      rw [SharedLists.answer, records_lists, ← peek?_eq hq]
      rfl
  | count signal =>
      rw [SharedLists.answer, records_lists, ← count_eq hq]
      rfl
  | unknown => rfl

/-- No calls make a queue unsound. -/
theorem Sound.after (hq : q.Sound) (calls : List Call) : (q.after calls).Sound := by
  induction calls generalizing q with
  | nil => exact hq
  | cons call rest ih => exact ih (hq.answer call)

theorem after_lists (hq : q.Sound) (calls : List Call) :
    q.lists.after calls = (q.after calls).lists := by
  induction calls generalizing q with
  | nil => rfl
  | cons call rest ih =>
      rw [SharedLists.after, lists_answer hq]
      exact ih (hq.answer call)

theorem answers_lists (hq : q.Sound) (calls : List Call) :
    q.answers calls = q.lists.answers calls := by
  induction calls generalizing q with
  | nil => rfl
  | cons call rest ih =>
      rw [SharedLists.answers, lists_answer hq]
      show ((q.answer call).1, (q.answer call).2.summary) :: (q.answer call).2.answers rest =
        ((q.answer call).1, (q.answer call).2.lists.summary) ::
          (q.answer call).2.lists.answers rest
      rw [summary_eq (hq.answer call), ih (hq.answer call)]

end Calls

/-- Everything that can be asked of a queue has the answer that the lists give. -/
structure Shows (q : PendingQueue) (l : SharedLists) : Prop where
  capacity : q.capacity = l.budget
  count : ∀ signal, q.count signal = (l.records signal).length
  peek : ∀ signal, q.peek? signal = (l.records signal).head?
  pending : ∀ signal, signal ∈ q.pending ↔ l.records signal ≠ []
  size : q.size = l.total
  isEmpty : q.isEmpty ↔ l.total = 0
  isFull : q.isFull ↔ l.total = l.budget
  /-- The slots without a record are free. -/
  free : l.total + q.free.size = l.budget

/-- A sound queue shows its lists. -/
theorem Sound.shows {q : PendingQueue} (hq : q.Sound) : q.Shows q.lists where
  capacity := rfl
  count signal := by rw [records_lists, count_eq hq]
  peek signal := by rw [records_lists, peek?_eq hq]
  pending signal := by rw [records_lists, mem_pending hq]
  size := size_eq hq
  isEmpty := isEmpty_iff_total hq
  isFull := isFull_iff_total hq
  free := total_add_free hq

/-- A new queue answers all calls as empty lists do whose budget is the requested capacity, but at
least 1 and at most 65535, and after any calls it shows what these lists are then. -/
theorem behaves_like_lists (requested : Nat) (calls : List Call) :
    let fresh := SharedLists.ofBudget (max 1 (min requested 65535))
    (ofCapacity requested).answers calls = fresh.answers calls ∧
      ((ofCapacity requested).after calls).Shows (fresh.after calls) := by
  intro fresh
  have hq := Sound.ofCapacity requested
  have hfresh : (ofCapacity requested).lists = fresh := lists_ofCapacity requested
  rw [← hfresh, after_lists hq]
  exact ⟨answers_lists hq calls, (hq.after calls).shows⟩

end PendingQueue

end SignalKernel
