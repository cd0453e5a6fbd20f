import SignalKernel.Proofs.Pending.Chain

/-!
# A pending queue as lists of records

`records q signal` is what a walk along a signal's links finds, the oldest record first. For a sound
queue, one whose slots are threaded into lists, everything that the queue tells and does is said in
terms of these lists: a push appends to one list (`records_push`), a pop takes the head of one
(`records_pop`), and counts, heads, the pending set and the sizes are those of the lists.
-/

namespace SignalKernel.PendingQueue

/-- The records from a link on. The walk ends at a link that is no index, and after `limit`
slots. -/
def recordsFrom (slots : Array Slot) : (limit : Nat) → (link : UInt16) → List Occurrence
  | 0, _ => []
  | limit + 1, link =>
      match slots[link.toNat]? with
      | none => []
      | some slot => slot.occurrence :: recordsFrom slots limit slot.next

/-- The records of a signal, the oldest first. -/
def records (q : PendingQueue) (signal : Nat) : List Occurrence :=
  match Signal.lane? signal with
  | none => []
  | some lane => recordsFrom q.slots q.capacity (q.head lane)

/-- The queue's slots are threaded into 64 lists. -/
def Sound (q : PendingQueue) : Prop :=
  ∃ chains, Threaded q chains

/-- A walk along a chain finds the records of its cells. -/
theorem Chain.recordsFrom_eq {slots : Array Slot} {link : UInt16} {cells : List Cell} {limit : Nat}
    (h : Chain slots link cells) (hsize : slots.size ≤ maxCapacity)
    (hlimit : cells.length ≤ limit) :
    recordsFrom slots limit link = cells.map Cell.occurrence := by
  induction cells generalizing link limit with
  | nil =>
      have hlink : link = endOfList := h
      have hnone : slots[endOfList.toNat]? = none := Array.getElem?_eq_none hsize
      cases limit with
      | zero => rfl
      | succ limit => rw [recordsFrom, hlink, hnone]; rfl
  | cons cell rest ih =>
      obtain ⟨-, next, hslot, hrest⟩ := h
      cases limit with
      | zero => simp at hlimit
      | succ limit =>
          rw [recordsFrom, hslot, List.map_cons]
          exact congrArg (cell.occurrence :: ·) (ih hrest (Nat.le_of_succ_le_succ hlimit))

theorem records_of_lane? {q : PendingQueue} {signal : Nat} (h : Signal.lane? signal = none) :
    q.records signal = [] := by
  rw [records, h]

namespace Threaded

variable {q : PendingQueue} {chains : Fin 64 → List Cell}

theorem records_ofLane (h : Threaded q chains) (lane : Fin 64) :
    q.records (Signal.ofLane lane) = (chains lane).map Cell.occurrence := by
  rw [records, Signal.lane?_ofLane]
  exact (h.chain lane).recordsFrom_eq h.capacity_le (h.length_le lane)

theorem records_eq (h : Threaded q chains) {signal : Nat} {lane : Fin 64}
    (hlane : Signal.lane? signal = some lane) :
    q.records signal = (chains lane).map Cell.occurrence := by
  rw [← h.records_ofLane, Signal.ofLane_of_lane? hlane]

/-- The lists after an edit of one of them. -/
theorem records_update {lane : Fin 64} {cells : List Cell}
    (h : Threaded q (Function.update chains lane cells)) {before : PendingQueue}
    (hbefore : Threaded before chains) (signal : Nat) :
    q.records signal =
      if signal = Signal.ofLane lane then cells.map Cell.occurrence else before.records signal := by
  cases hother : Signal.lane? signal with
  | none =>
      rw [records_of_lane? hother, records_of_lane? hother, if_neg]
      rintro rfl
      rw [Signal.lane?_ofLane] at hother
      cases hother
  | some other =>
      have hsignal := Signal.ofLane_of_lane? hother
      subst hsignal
      rw [h.records_ofLane, hbefore.records_ofLane]
      by_cases heq : other = lane
      · subst heq
        rw [Function.update_self, if_pos rfl]
      · rw [Function.update_of_ne heq, if_neg fun hsame ↦ heq (Signal.ofLane_inj.1 hsame)]

end Threaded

/-! ## Pushing -/

section Push

variable {q : PendingQueue}

/-- The queue is full exactly if no slot is free. -/
theorem isFull_iff : q.isFull ↔ q.free.pop? = none := by
  rw [BoundedQueue.pop?_eq_none_iff, ← List.length_eq_zero_iff, BoundedQueue.length_toList, isFull,
    BoundedQueue.isEmpty, beq_iff_eq]

/-- A push is refused for an invalid signal, then for want of a free slot. -/
theorem push_outcome (q : PendingQueue) (o : Occurrence) :
    (q.push o).1 =
      if !Signal.isValid o.signal then .error .invalidSignal
      else if q.isFull then .error .queueFull
      else .ok () := by
  unfold push
  cases hlane : Signal.lane? o.signal with
  | none =>
      have hvalid : Signal.isValid o.signal = false := by
        rw [← Bool.not_eq_true, Signal.isValid_iff_lane?, hlane]
        simp
      simp [hvalid]
  | some lane =>
      have hvalid : Signal.isValid o.signal = true := by
        rw [Signal.isValid_iff_lane?, hlane]
        rfl
      cases hfree : q.free.pop? with
      | none => simp [hvalid, isFull_iff.2 hfree]
      | some taken =>
          have hfull : q.isFull = false := by
            rw [← Bool.not_eq_true, isFull_iff, hfree]
            simp
          simp [hvalid, hfull]

/-- A refused push leaves the queue as it was. -/
theorem push_of_error {o : Occurrence} {error : SignalError} (h : (q.push o).1 = .error error) :
    (q.push o).2 = q := by
  unfold push at h ⊢
  split
  · rfl
  · split
    · rfl
    · rename_i hlane _ _ _ hfree
      simp only [hlane, hfree] at h
      cases h

theorem Sound.push_ok (hq : q.Sound) {o : Occurrence} (h : (q.push o).1 = .ok ()) :
    (q.push o).2.Sound ∧ ∀ signal, (q.push o).2.records signal =
      if signal = o.signal then q.records signal ++ [o] else q.records signal := by
  obtain ⟨chains, hchains⟩ := hq
  unfold push at h ⊢
  cases hlane : Signal.lane? o.signal with
  | none => simp [hlane] at h
  | some lane =>
      cases hfree : q.free.pop? with
      | none => simp [hlane, hfree] at h
      | some taken =>
          obtain ⟨index, free⟩ := taken
          have ho := (Signal.ofLane_of_lane? hlane).symm
          have hafter := hchains.append hfree ho
          refine ⟨⟨_, hafter⟩, fun signal ↦ ?_⟩
          rw [hafter.records_update hchains, ho, List.map_append, ← hchains.records_ofLane]
          split
          · rename_i hsignal
            rw [hsignal]
            rfl
          · rfl

theorem Sound.push (hq : q.Sound) (o : Occurrence) : (q.push o).2.Sound := by
  cases h : (q.push o).1 with
  | error error => rwa [push_of_error h]
  | ok _ => exact (hq.push_ok h).1

/-- A push that is not refused appends to the list of its signal. -/
theorem records_push (hq : q.Sound) {o : Occurrence} (h : (q.push o).1 = .ok ()) (signal : Nat) :
    (q.push o).2.records signal =
      if signal = o.signal then q.records signal ++ [o] else q.records signal :=
  (hq.push_ok h).2 signal

end Push

/-! ## Popping -/

section Pop

variable {q : PendingQueue}

/-- A pop takes the head of its signal's list, if there is one. -/
theorem Sound.pop_spec (hq : q.Sound) (signal : Nat) :
    (q.pop signal).1 = (q.records signal).head? ∧ (q.pop signal).2.Sound ∧
      ∀ other, (q.pop signal).2.records other =
        if other = signal then (q.records signal).tail else q.records other := by
  obtain ⟨chains, hchains⟩ := hq
  unfold pop
  cases hlane : Signal.lane? signal with
  | none =>
      rw [records_of_lane? hlane]
      refine ⟨rfl, ⟨chains, hchains⟩, fun other ↦ ?_⟩
      by_cases hother : other = signal
      · rw [if_pos hother, hother]
        exact records_of_lane? hlane
      · rw [if_neg hother]
  | some lane =>
      have hsignal := Signal.ofLane_of_lane? hlane
      subst hsignal
      rw [hchains.records_ofLane]
      cases hcells : chains lane with
      | nil =>
          simp only [if_pos ((hchains.head_eq_iff lane).2 hcells)]
          refine ⟨rfl, ⟨chains, hchains⟩, fun other ↦ ?_⟩
          by_cases hother : other = Signal.ofLane lane
          · rw [if_pos hother, hother, hchains.records_ofLane, hcells]
            rfl
          · rw [if_neg hother]
      | cons cell rest =>
          obtain ⟨hhead, hend, next, hslot, hrest⟩ := hchains.head_slot hcells
          have hafter := hchains.dropHead hcells hrest
          simp only [hhead, if_neg hend, hslot]
          exact ⟨rfl, ⟨_, hafter⟩, hafter.records_update hchains⟩

theorem Sound.pop (hq : q.Sound) (signal : Nat) : (q.pop signal).2.Sound :=
  (hq.pop_spec signal).2.1

/-- A pop brings the oldest record. -/
theorem pop_outcome (hq : q.Sound) (signal : Nat) :
    (q.pop signal).1 = (q.records signal).head? :=
  (hq.pop_spec signal).1

/-- A pop shortens the list of its signal by the head. -/
theorem records_pop (hq : q.Sound) (signal other : Nat) :
    (q.pop signal).2.records other =
      if other = signal then (q.records signal).tail else q.records other :=
  (hq.pop_spec signal).2.2 other

/-- A pop that brings nothing leaves the queue as it was. -/
theorem pop_of_none {signal : Nat} (h : (q.pop signal).1 = none) : (q.pop signal).2 = q := by
  unfold pop at h ⊢
  split
  · rfl
  · rename_i hlane
    simp only [hlane] at h ⊢
    split
    · rfl
    · rename_i hend
      rw [if_neg hend] at h
      split
      · rfl
      · rename_i hslot
        simp only [hslot] at h
        cases h

end Pop

/-! ## What a queue tells -/

section Observers

variable {q : PendingQueue} (hq : q.Sound)
include hq

/-- A signal is pending exactly if it has a record. -/
theorem mem_pending {signal : Nat} : signal ∈ q.pending ↔ q.records signal ≠ [] := by
  obtain ⟨chains, hchains⟩ := hq
  cases hlane : Signal.lane? signal with
  | none =>
      rw [records_of_lane? hlane]
      refine ⟨fun hmem ↦ ?_, fun hne ↦ absurd rfl hne⟩
      have hvalid := SignalSet.isValid_of_mem hmem
      rw [Signal.isValid_iff_lane?, hlane] at hvalid
      cases hvalid
  | some lane =>
      rw [hchains.records_eq hlane, ← Signal.ofLane_of_lane? hlane, hchains.pending]
      simp

/-- The count is the number of records. -/
theorem count_eq (signal : Nat) : q.count signal = (q.records signal).length := by
  obtain ⟨chains, hchains⟩ := hq
  unfold count
  cases hlane : Signal.lane? signal with
  | none => rw [records_of_lane? hlane]; rfl
  | some lane =>
      rw [hchains.records_eq hlane, List.length_map]
      exact hchains.count lane

/-- The record that is found first is the oldest. -/
theorem peek?_eq (signal : Nat) : q.peek? signal = (q.records signal).head? := by
  obtain ⟨chains, hchains⟩ := hq
  unfold peek?
  cases hlane : Signal.lane? signal with
  | none => rw [records_of_lane? hlane]; rfl
  | some lane =>
      rw [hchains.records_eq hlane]
      cases hcells : chains lane with
      | nil =>
          simp only [if_pos ((hchains.head_eq_iff lane).2 hcells)]
          rfl
      | cons cell rest =>
          obtain ⟨hhead, hend, next, hslot, -⟩ := hchains.head_slot hcells
          simp only [hhead, if_neg hend, hslot]
          rfl

/-- A list holds records of its own signal only. -/
theorem signal_of_mem_records {signal : Nat} {o : Occurrence} (ho : o ∈ q.records signal) :
    o.signal = signal := by
  obtain ⟨chains, hchains⟩ := hq
  cases hlane : Signal.lane? signal with
  | none =>
      rw [records_of_lane? hlane] at ho
      cases ho
  | some lane =>
      rw [hchains.records_eq hlane] at ho
      obtain ⟨cell, hcell, rfl⟩ := List.mem_map.1 ho
      rw [hchains.signal lane cell hcell, Signal.ofLane_of_lane? hlane]

/-- No list is longer than the queue has slots. -/
theorem length_records_le (signal : Nat) : (q.records signal).length ≤ q.capacity := by
  obtain ⟨chains, hchains⟩ := hq
  cases hlane : Signal.lane? signal with
  | none => rw [records_of_lane? hlane]; exact Nat.zero_le _
  | some lane =>
      rw [hchains.records_eq hlane, List.length_map]
      exact hchains.length_le lane

end Observers

/-- A new queue is sound. -/
theorem Sound.ofCapacity (requested : Nat) : (ofCapacity requested).Sound :=
  ⟨_, .ofCapacity requested⟩

/-- A new queue has no records. -/
@[simp] theorem records_ofCapacity (requested signal : Nat) :
    (ofCapacity requested).records signal = [] := by
  cases hlane : Signal.lane? signal with
  | none => exact records_of_lane? hlane
  | some lane => exact (Threaded.ofCapacity requested).records_eq hlane

end SignalKernel.PendingQueue
