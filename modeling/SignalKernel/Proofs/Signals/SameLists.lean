import SignalKernel.Proofs.Pending.SharedLists
import SignalKernel.Proofs.Signals.State

/-!
# Signals that cannot be told apart

Queues that had their records in a different order may keep the same lists in different slots.
Signals with the same mask and the same lists cannot be told apart: whatever is asked of them has
the same answer, and what operations make of them cannot be told apart either.
-/

namespace SignalKernel.SignalState

/-- The same mask, and queues that stand for the same lists. -/
structure SameLists (s s' : SignalState) : Prop where
  sound : s.queue.Sound
  sound' : s'.queue.Sound
  blocked : s.blocked = s'.blocked
  lists : s.queue.lists = s'.queue.lists

namespace SameLists

variable {s s' : SignalState} (h : s.SameLists s')
include h

theorem records (signal : Nat) : s.records signal = s'.records signal := by
  unfold SignalState.records
  rw [← PendingQueue.records_lists, h.lists, PendingQueue.records_lists]

theorem capacity : s.queue.capacity = s'.queue.capacity :=
  congrArg SharedLists.budget h.lists

theorem pending : s.pending = s'.pending := by
  unfold SignalState.pending
  rw [PendingQueue.pending_eq h.sound, h.lists, PendingQueue.pending_eq h.sound']

theorem deliverable : s.deliverable = s'.deliverable := by
  unfold SignalState.deliverable
  rw [h.pending, h.blocked]

theorem isBlocked (signal : Nat) : s.isBlocked signal = s'.isBlocked signal :=
  congrArg (SignalSet.contains · signal) h.blocked

theorem isFull : s.queue.isFull = s'.queue.isFull := by
  refine Bool.eq_iff_iff.2 ?_
  rw [PendingQueue.isFull_iff_total h.sound, PendingQueue.isFull_iff_total h.sound', h.lists,
    h.capacity]

theorem count (signal : Nat) : s.queue.count signal = s'.queue.count signal := by
  rw [PendingQueue.count_eq h.sound, PendingQueue.count_eq h.sound']
  exact congrArg List.length (h.records signal)

end SameLists

/-- With the same mask, the same number of slots and the same records, lists are the same. -/
theorem sameLists_of_records {s s' : SignalState} (hq : s.queue.Sound) (hq' : s'.queue.Sound)
    (hblocked : s.blocked = s'.blocked) (hcapacity : s.queue.capacity = s'.queue.capacity)
    (hrecords : ∀ signal, s.records signal = s'.records signal) : s.SameLists s' := by
  refine ⟨hq, hq', hblocked, ?_⟩
  ext1
  · exact hcapacity
  · exact funext fun lane ↦ hrecords (Signal.ofLane lane)

/-! ## Operations -/

/-- The operation does not tell apart signals that have the same lists. -/
def Respects {α : Type} (f : SignalState → α × SignalState) : Prop :=
  ∀ {s s' : SignalState}, s.SameLists s' → (f s).1 = (f s').1 ∧ (f s).2.SameLists (f s').2

theorem SameLists.receive_outcome {s s' : SignalState} (h : s.SameLists s') (o : Occurrence) :
    (s.receive o).1 = (s'.receive o).1 := by
  by_cases hblocked : o.signal ∈ s.blocked
  · have hvalid := SignalSet.isValid_of_mem hblocked
    have hcoalesces : s.Coalesces o ↔ s'.Coalesces o := by
      unfold Coalesces
      rw [h.records]
    rw [SignalState.receive_outcome h.sound hvalid, SignalState.receive_outcome h.sound' hvalid,
      h.blocked, h.isFull]
    simp only [hcoalesces]
  · rw [receive, if_neg fun hmem ↦ hblocked (isBlocked_iff.1 hmem)]
    rw [h.blocked] at hblocked
    rw [receive, if_neg fun hmem ↦ hblocked (isBlocked_iff.1 hmem)]

theorem respects_receive (o : Occurrence) : Respects (·.receive o) := by
  intro s s' h
  have houtcome := h.receive_outcome o
  refine ⟨houtcome, ?_⟩
  by_cases hqueued : (s.receive o).1 = .ok .queued
  · have hqueued' := houtcome.symm.trans hqueued
    refine sameLists_of_records (sound_receive h.sound o) (sound_receive h.sound' o) ?_ ?_ ?_
    · rw [blocked_receive, blocked_receive, h.blocked]
    · rw [capacity_receive, capacity_receive, h.capacity]
    · intro signal
      rw [records_receive h.sound hqueued, records_receive h.sound' hqueued', h.records]
  · have hqueued' : (s'.receive o).1 ≠ .ok .queued := fun hresult ↦
      hqueued (houtcome.trans hresult)
    rw [receive_of_ne_queued hqueued, receive_of_ne_queued hqueued']
    exact h

theorem takeUnblocked_eq (s : SignalState) (signal : Nat) :
    s.takeUnblocked signal = if s.isBlocked signal then (none, s)
      else ((s.queue.pop signal).1, ⟨s.blocked, (s.queue.pop signal).2⟩) :=
  rfl

theorem respects_takeUnblocked (signal : Nat) : Respects (·.takeUnblocked signal) := by
  intro s s' h
  have hpop := PendingQueue.lists_pop h.sound signal
  rw [h.lists, PendingQueue.lists_pop h.sound' signal, Prod.mk.injEq] at hpop
  simp only [takeUnblocked_eq, h.isBlocked]
  split
  · exact ⟨rfl, h⟩
  · exact ⟨hpop.1.symm, h.sound.pop signal, h.sound'.pop signal, h.blocked, hpop.2.symm⟩

theorem respects_changeMask (mode : MaskMode) (set : SignalSet) :
    Respects fun s ↦ ((s.changeMask mode set).blocked, s.changeMask mode set) := by
  intro s s' h
  have hblocked : (s.changeMask mode set).blocked = (s'.changeMask mode set).blocked := by
    cases mode <;> simp only [changeMask, h.blocked]
  refine ⟨hblocked, ?_, ?_, hblocked, ?_⟩
  · rw [queue_changeMask]
    exact h.sound
  · rw [queue_changeMask]
    exact h.sound'
  · rw [queue_changeMask, queue_changeMask, h.lists]

/-! ## Signals that are the same or cannot be told apart -/

/-- The same signals, or signals that cannot be told apart. -/
def Indistinct (s s' : SignalState) : Prop :=
  s = s' ∨ s.SameLists s'

theorem Indistinct.of_respects {α : Type} {f : SignalState → α × SignalState} (hf : Respects f)
    {s s' : SignalState} (h : s.Indistinct s') :
    (f s).1 = (f s').1 ∧ (f s).2.Indistinct (f s').2 := by
  rcases h with rfl | h
  · exact ⟨rfl, .inl rfl⟩
  · exact ⟨(hf h).1, .inr (hf h).2⟩

/-- What has the same answer for signals with the same lists. -/
theorem Indistinct.eq {α : Type} {f : SignalState → α} (hf : ∀ {s s'}, SameLists s s' → f s = f s')
    {s s' : SignalState} (h : s.Indistinct s') : f s = f s' := by
  rcases h with rfl | h
  · rfl
  · exact hf h

end SignalKernel.SignalState
