import SignalKernel.Proofs.Pending.Records
import SignalKernel.SignalState

/-!
# What posting and taking do to a thread's signals

The records of a thread's signals are those of its queue. `receive` and `takeUnblocked` are said in
terms of the mask and these lists: `receive_outcome` gives the fate of a posted occurrence,
`records_receive` what is recorded of it, and `Taken` what taking a record leaves behind.
-/

namespace SignalKernel.SignalState

/-- The records of a signal, the oldest first. -/
def records (s : SignalState) (signal : Nat) : List Occurrence :=
  s.queue.records signal

theorem isBlocked_iff {s : SignalState} {signal : Nat} :
    s.isBlocked signal = true ↔ signal ∈ s.blocked :=
  Iff.rfl

/-- A signal is pending exactly if it has a record. -/
theorem mem_pending {s : SignalState} (hq : s.queue.Sound) {signal : Nat} :
    signal ∈ s.pending ↔ s.records signal ≠ [] :=
  PendingQueue.mem_pending hq

@[simp] theorem records_changeMask (s : SignalState) (mode : MaskMode) (set : SignalSet)
    (signal : Nat) : (s.changeMask mode set).records signal = s.records signal := by
  rw [records, queue_changeMask]
  rfl

@[simp] theorem records_ofMask (mask : SignalSet) (capacity signal : Nat) :
    (ofMask mask capacity).records signal = [] :=
  PendingQueue.records_ofCapacity capacity signal

/-! ## Posting -/

/-- A posted occurrence merges into a pending one: its signal counts once and has a record. -/
def Coalesces (s : SignalState) (o : Occurrence) : Prop :=
  Signal.isRealtime o.signal = false ∧ s.records o.signal ≠ []

instance (s : SignalState) (o : Occurrence) : Decidable (s.Coalesces o) :=
  inferInstanceAs (Decidable (_ ∧ _))

/-- What becomes of an occurrence depends on the mask, on the signal's list and on whether there is
a free slot. -/
theorem receive_outcome {s : SignalState} (hq : s.queue.Sound) {o : Occurrence}
    (hvalid : Signal.isValid o.signal) :
    (s.receive o).1 =
      if o.signal ∉ s.blocked then .ok .delivered
      else if s.Coalesces o then .ok .coalesced
      else if s.queue.isFull then .error .queueFull
      else .ok .queued := by
  unfold receive
  by_cases hblocked : o.signal ∈ s.blocked
  · rw [if_pos (isBlocked_iff.2 hblocked), if_neg (not_not_intro hblocked)]
    unfold enqueue
    by_cases hcoalesces : s.Coalesces o
    · have hpending : s.isPending o.signal = true := (mem_pending hq).2 hcoalesces.2
      rw [if_pos hcoalesces, hcoalesces.1, hpending]
      rfl
    · have hkept : (!Signal.isRealtime o.signal && s.isPending o.signal) = false := by
        rw [← Bool.not_eq_true, Bool.and_eq_true, Bool.not_eq_true']
        exact fun ⟨hstandard, hpending⟩ ↦ hcoalesces ⟨hstandard, (mem_pending hq).1 hpending⟩
      have hpush := PendingQueue.push_outcome s.queue o
      rw [hvalid, Bool.not_true, if_neg Bool.false_ne_true] at hpush
      rw [if_neg hcoalesces, hkept, if_neg Bool.false_ne_true]
      simp only
      split
      · rename_i error queue hresult
        rw [hresult] at hpush
        split at hpush
        · rename_i hfull
          rw [if_pos hfull]
          cases hpush
          rfl
        · cases hpush
      · rename_i queue hresult
        rw [hresult] at hpush
        split at hpush
        · cases hpush
        · rename_i hfull
          rw [if_neg hfull]
  · rw [if_neg fun h ↦ hblocked (isBlocked_iff.1 h), if_pos hblocked]

/-- Only what is not blocked is delivered at once. -/
theorem not_blocked_of_delivered {s : SignalState} {o : Occurrence}
    (h : (s.receive o).1 = .ok .delivered) : o.signal ∉ s.blocked := by
  intro hblocked
  rw [receive, if_pos (isBlocked_iff.2 hblocked), enqueue] at h
  split at h
  · cases h
  · split at h <;> cases h

/-- Only what is blocked is queued. -/
theorem mem_blocked_of_queued {s : SignalState} {o : Occurrence}
    (h : (s.receive o).1 = .ok .queued) : o.signal ∈ s.blocked := by
  by_contra hopen
  rw [receive, if_neg fun hblocked ↦ hopen (isBlocked_iff.1 hblocked)] at h
  cases h

/-- An occurrence that is not queued leaves the signals as they were. -/
theorem receive_of_ne_queued {s : SignalState} {o : Occurrence}
    (h : (s.receive o).1 ≠ .ok .queued) : (s.receive o).2 = s := by
  unfold receive at h ⊢
  split
  · rename_i hblocked
    rw [if_pos hblocked] at h
    unfold enqueue at h ⊢
    split
    · rfl
    · rename_i hkept
      rw [if_neg hkept] at h
      simp only at h ⊢
      split at h
      · rename_i error queue hresult
        have hqueue := PendingQueue.push_of_error (congrArg Prod.fst hresult)
        rw [hresult] at hqueue
        show (⟨s.blocked, queue⟩ : SignalState) = s
        rw [show queue = s.queue from hqueue]
      · exact absurd rfl h
  · rfl

/-- A queued occurrence is pushed. -/
theorem receive_of_queued {s : SignalState} {o : Occurrence}
    (h : (s.receive o).1 = .ok .queued) :
    (s.queue.push o).1 = .ok () ∧ (s.receive o).2 = ⟨s.blocked, (s.queue.push o).2⟩ := by
  unfold receive at h ⊢
  split at h
  · rename_i hblocked
    rw [if_pos hblocked]
    unfold enqueue at h ⊢
    split at h
    · cases h
    · rename_i hkept
      rw [if_neg hkept]
      simp only at h ⊢
      split at h
      · cases h
      · rename_i queue hresult
        rw [hresult]
        exact ⟨rfl, rfl⟩
  · cases h

/-- The number of no signal is not blocked, so it is not recorded. -/
theorem receive_of_invalid {s : SignalState} {o : Occurrence}
    (h : Signal.isValid o.signal = false) : (s.receive o).2 = s := by
  have hblocked : ¬ s.isBlocked o.signal = true := by
    intro hmem
    have hvalid := SignalSet.isValid_of_mem (isBlocked_iff.1 hmem)
    rw [h] at hvalid
    cases hvalid
  rw [receive, if_neg hblocked]

@[simp] theorem blocked_receive (s : SignalState) (o : Occurrence) :
    (s.receive o).2.blocked = s.blocked := by
  by_cases h : (s.receive o).1 = .ok .queued
  · rw [(receive_of_queued h).2]
  · rw [receive_of_ne_queued h]

@[simp] theorem capacity_receive (s : SignalState) (o : Occurrence) :
    (s.receive o).2.queue.capacity = s.queue.capacity := by
  by_cases h : (s.receive o).1 = .ok .queued
  · rw [(receive_of_queued h).2]
    exact PendingQueue.capacity_push s.queue o
  · rw [receive_of_ne_queued h]

theorem sound_receive {s : SignalState} (hq : s.queue.Sound) (o : Occurrence) :
    (s.receive o).2.queue.Sound := by
  by_cases h : (s.receive o).1 = .ok .queued
  · rw [(receive_of_queued h).2]
    exact hq.push o
  · rwa [receive_of_ne_queued h]

/-- A queued occurrence stands behind the records of its signal. -/
theorem records_receive {s : SignalState} (hq : s.queue.Sound) {o : Occurrence}
    (h : (s.receive o).1 = .ok .queued) (signal : Nat) :
    (s.receive o).2.records signal =
      if signal = o.signal then s.records signal ++ [o] else s.records signal := by
  obtain ⟨hpush, hafter⟩ := receive_of_queued h
  rw [hafter]
  exact PendingQueue.records_push hq hpush signal

/-! ## Taking -/

/-- The oldest record `o` of a signal that is not blocked was taken out of `s`, which left `s'`. -/
structure Taken (s : SignalState) (signal : Nat) (o : Occurrence) (s' : SignalState) : Prop where
  not_blocked : signal ∉ s.blocked
  signal_eq : o.signal = signal
  records_eq : s.records signal = o :: s'.records signal
  records_of_ne : ∀ other, other ≠ signal → s'.records other = s.records other
  blocked_eq : s'.blocked = s.blocked
  capacity_eq : s'.queue.capacity = s.queue.capacity
  sound : s'.queue.Sound

/-- If there is nothing to take, the signal is blocked or has no record, and all stays as it was. -/
theorem takeUnblocked_of_none {s : SignalState} (hq : s.queue.Sound) {signal : Nat}
    (h : (s.takeUnblocked signal).1 = none) :
    (signal ∈ s.blocked ∨ s.records signal = []) ∧ (s.takeUnblocked signal).2 = s := by
  unfold takeUnblocked at h ⊢
  split at h
  · rename_i hblocked
    rw [if_pos hblocked]
    exact ⟨.inl (isBlocked_iff.1 hblocked), rfl⟩
  · rename_i hblocked
    rw [if_neg hblocked]
    have hempty : (s.queue.pop signal).1 = none := h
    have hrecords := PendingQueue.pop_outcome hq signal
    rw [hempty, eq_comm, List.head?_eq_none_iff] at hrecords
    refine ⟨.inr hrecords, ?_⟩
    show (⟨s.blocked, (s.queue.pop signal).2⟩ : SignalState) = s
    rw [PendingQueue.pop_of_none hempty]

/-- What is taken is the oldest record of a signal that is not blocked. -/
theorem takeUnblocked_of_some {s : SignalState} (hq : s.queue.Sound) {signal : Nat}
    {o : Occurrence} (h : (s.takeUnblocked signal).1 = some o) :
    s.Taken signal o (s.takeUnblocked signal).2 := by
  unfold takeUnblocked at h ⊢
  split at h
  · cases h
  · rename_i hblocked
    rw [if_neg hblocked]
    have htaken : (s.queue.pop signal).1 = some o := h
    have hrecords := PendingQueue.records_pop hq signal
    have hhead := PendingQueue.pop_outcome hq signal
    rw [htaken, eq_comm, List.head?_eq_some_iff] at hhead
    obtain ⟨rest, hcons⟩ := hhead
    constructor
    case not_blocked => exact fun hmem ↦ hblocked (isBlocked_iff.2 hmem)
    case signal_eq =>
      refine PendingQueue.signal_of_mem_records hq ?_
      rw [hcons]
      exact List.mem_cons_self ..
    case records_eq =>
      show s.queue.records signal = o :: (s.queue.pop signal).2.records signal
      rw [hrecords, if_pos rfl, hcons, List.tail_cons]
    case records_of_ne =>
      intro other hother
      exact (hrecords other).trans (if_neg hother)
    case blocked_eq => rfl
    case capacity_eq => exact PendingQueue.capacity_pop s.queue signal
    case sound => exact hq.pop signal

end SignalKernel.SignalState
