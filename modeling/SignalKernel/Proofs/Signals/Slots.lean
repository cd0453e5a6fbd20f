import Mathlib.Algebra.Order.BigOperators.Group.Finset
import SignalKernel.Proofs.Pending.SharedLists
import SignalKernel.Proofs.Signals.State

/-!
# Which signals use the record slots

All records of a thread share its slots. Standard signals have at most one record each, while a
realtime signal has one for every occurrence, so that standard signals cannot run out of slots
among themselves but can be left without one by realtime signals. `receive_eq_error_iff` says when
an occurrence of a standard signal is refused, and `Merged.standardRecords_add_card_le` bounds how
many slots standard signals have.
-/

namespace SignalKernel

namespace Signal

/-- A standard signal is one of the first 31. -/
theorem mem_standard {signal : Nat} : signal ∈ standard ↔ 1 ≤ signal ∧ signal ≤ 31 := by
  rw [standard, List.mem_map]
  constructor
  · rintro ⟨index, hindex, rfl⟩
    have hlt : index < 31 := List.mem_range.1 hindex
    omega
  · rintro ⟨hfirst, hlast⟩
    exact ⟨signal - 1, List.mem_range.2 (show signal - 1 < 31 by omega), by omega⟩

/-- Standard signals are the valid ones that are not realtime. -/
theorem mem_standard_iff {signal : Nat} :
    signal ∈ standard ↔ isValid signal = true ∧ isRealtime signal = false := by
  rw [mem_standard, isValid_iff, isRealtime, realtimeFirst, realtimeLast, Bool.and_eq_false_iff,
    decide_eq_false_iff_not, decide_eq_false_iff_not]
  omega

/-- The positions of the standard signals. -/
def standardLanes : Finset (Fin 64) :=
  Finset.univ.filter fun lane ↦ isRealtime (ofLane lane) = false

theorem mem_standardLanes {lane : Fin 64} :
    lane ∈ standardLanes ↔ isRealtime (ofLane lane) = false := by
  rw [standardLanes, Finset.mem_filter, and_iff_right (Finset.mem_univ lane)]

theorem card_standardLanes : standardLanes.card = 31 := by
  decide

/-- A standard signal has a position, and it is one of these. -/
theorem exists_standardLane {signal : Nat} (h : signal ∈ standard) :
    ∃ lane ∈ standardLanes, ofLane lane = signal := by
  obtain ⟨hvalid, hstandard⟩ := mem_standard_iff.1 h
  rw [isValid_iff_lane?] at hvalid
  obtain ⟨lane, hlane⟩ := Option.isSome_iff_exists.1 hvalid
  have hsignal := ofLane_of_lane? hlane
  refine ⟨lane, mem_standardLanes.2 ?_, hsignal⟩
  rw [hsignal]
  exact hstandard

end Signal

namespace SignalState

/-- The number of records of standard signals. -/
def standardRecords (s : SignalState) : Nat :=
  ∑ lane ∈ Signal.standardLanes, (s.records (Signal.ofLane lane)).length

/-- The number of records of realtime signals. -/
def realtimeRecords (s : SignalState) : Nat :=
  ∑ lane ∈ Signal.standardLanesᶜ, (s.records (Signal.ofLane lane)).length

/-- All slots are in use exactly if the records of both kinds are as many as there are slots. -/
theorem isFull_iff {s : SignalState} (hq : s.queue.Sound) :
    s.queue.isFull ↔ s.standardRecords + s.realtimeRecords = s.queue.capacity := by
  have htotal : s.standardRecords + s.realtimeRecords = s.queue.lists.total := by
    rw [SharedLists.total, totalLength]
    exact Finset.sum_add_sum_compl Signal.standardLanes _
  rw [PendingQueue.isFull_iff_total hq, htotal]

/-- Standard signals merge: none of them has more than one record. -/
structure Merged (s : SignalState) : Prop where
  sound : s.queue.Sound
  once : ∀ signal, Signal.isRealtime signal = false → (s.records signal).length ≤ 1

namespace Merged

variable {s : SignalState}

theorem ofMask (mask : SignalSet) (capacity : Nat) : (ofMask mask capacity).Merged where
  sound := .ofCapacity capacity
  once signal _ := by
    rw [records_ofMask]
    exact Nat.zero_le 1

theorem changeMask (h : s.Merged) (mode : MaskMode) (set : SignalSet) :
    (s.changeMask mode set).Merged where
  sound := by
    rw [queue_changeMask]
    exact h.sound
  once signal hstandard := by
    rw [records_changeMask]
    exact h.once signal hstandard

/-- What is queued of a standard signal is its only record, because it would be merged into an
older one. -/
theorem receive (h : s.Merged) (o : Occurrence) : (s.receive o).2.Merged where
  sound := sound_receive h.sound o
  once signal hstandard := by
    by_cases hqueued : (s.receive o).1 = .ok .queued
    · have hblocked := mem_blocked_of_queued hqueued
      rw [records_receive h.sound hqueued]
      split
      · rename_i hsignal
        subst hsignal
        have houtcome := receive_outcome h.sound (SignalSet.isValid_of_mem hblocked)
        rw [hqueued, if_neg (not_not_intro hblocked)] at houtcome
        have hfirst : s.records o.signal = [] := by
          by_contra hrecords
          rw [if_pos ⟨hstandard, hrecords⟩] at houtcome
          cases houtcome
        rw [hfirst]
        exact Nat.le_refl 1
      · exact h.once signal hstandard
    · rw [receive_of_ne_queued hqueued]
      exact h.once signal hstandard

theorem taken {left : SignalState} {signal : Nat} {o : Occurrence} (h : s.Merged)
    (htaken : s.Taken signal o left) : left.Merged where
  sound := htaken.sound
  once other hstandard := by
    have hlength := h.once other hstandard
    by_cases hother : other = signal
    · subst hother
      rw [htaken.records_eq, List.length_cons] at hlength
      omega
    · rw [htaken.records_of_ne other hother]
      exact hlength

/-- Standard signals without a record leave the slots that they could use to others. -/
theorem standardRecords_add_card_le (h : s.Merged) {silent : Finset (Fin 64)}
    (hsub : silent ⊆ Signal.standardLanes)
    (hsilent : ∀ lane ∈ silent, s.records (Signal.ofLane lane) = []) :
    s.standardRecords + silent.card ≤ 31 := by
  have hnone : ∑ lane ∈ silent, (s.records (Signal.ofLane lane)).length = 0 := by
    refine Finset.sum_eq_zero fun lane hlane ↦ ?_
    rw [hsilent lane hlane]
    rfl
  have hothers : ∑ lane ∈ Signal.standardLanes \ silent, (s.records (Signal.ofLane lane)).length ≤
      (Signal.standardLanes \ silent).card := by
    rw [Finset.card_eq_sum_ones]
    refine Finset.sum_le_sum fun lane hlane ↦ h.once _ ?_
    exact Signal.mem_standardLanes.1 (Finset.mem_sdiff.1 hlane).1
  have hsum := Finset.sum_sdiff hsub (f := fun lane ↦ (s.records (Signal.ofLane lane)).length)
  have hcard := Finset.card_sdiff_add_card_eq_card hsub
  rw [Signal.card_standardLanes] at hcard
  unfold standardRecords
  omega

end Merged

/-- An occurrence of the standard signal finds no record to merge into and no slot to be recorded
in. -/
structure CrowdedOut (s : SignalState) (signal : Nat) : Prop where
  blocked : signal ∈ s.blocked
  records_eq : s.records signal = []
  full : s.standardRecords + s.realtimeRecords = s.queue.capacity

/-- An occurrence of a standard signal is refused exactly if it finds neither. -/
theorem receive_eq_error_iff {s : SignalState} (hq : s.queue.Sound) {o : Occurrence}
    (hstandard : o.signal ∈ Signal.standard) {error : SignalError} :
    (s.receive o).1 = .error error ↔ error = .queueFull ∧ s.CrowdedOut o.signal := by
  obtain ⟨hvalid, hmerges⟩ := Signal.mem_standard_iff.1 hstandard
  rw [receive_outcome hq hvalid]
  constructor
  · intro hrefused
    split at hrefused
    · cases hrefused
    · rename_i hblocked
      split at hrefused
      · cases hrefused
      · rename_i hcoalesces
        split at hrefused
        · rename_i hfull
          cases hrefused
          refine ⟨rfl, not_not.1 hblocked, ?_, (isFull_iff hq).1 hfull⟩
          exact not_not.1 fun hrecords ↦ hcoalesces ⟨hmerges, hrecords⟩
        · cases hrefused
  · rintro ⟨rfl, hblocked, hrecords, hfull⟩
    rw [if_neg (not_not_intro hblocked), if_neg fun hcoalesces ↦ hcoalesces.2 hrecords,
      if_pos ((isFull_iff hq).2 hfull)]

end SignalState

end SignalKernel
