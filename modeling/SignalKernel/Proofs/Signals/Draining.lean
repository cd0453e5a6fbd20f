import SignalKernel.Proofs.Signals.State

/-!
# Signals with nothing to deliver

A signal is clean if it is blocked or has no record, and signals are settled if all of them are
clean. Between two moments signals drain if the list of no signal that is not blocked has grown
while it was not blocked, and the list of no signal that became unblocked has any record left. This
is what arbitrary handlers keep to, and it is enough to keep clean signals clean.
-/

namespace SignalKernel.SignalState

/-- Nothing of the signal is deliverable. -/
def Clean (s : SignalState) (signal : Nat) : Prop :=
  signal ∈ s.blocked ∨ s.records signal = []

/-- Nothing is deliverable. -/
def Settled (s : SignalState) : Prop :=
  ∀ signal, s.Clean signal

/-- A signal that is not blocked in `s'` has no record there, or it was not blocked in `s` either
and its list is no longer than it was. -/
def Drains (s s' : SignalState) : Prop :=
  ∀ signal, signal ∉ s'.blocked → s'.records signal = [] ∨
    signal ∉ s.blocked ∧ (s'.records signal).length ≤ (s.records signal).length

theorem Drains.refl (s : SignalState) : s.Drains s :=
  fun _ hblocked ↦ .inr ⟨hblocked, Nat.le_refl _⟩

theorem Drains.trans {first second third : SignalState} (h : first.Drains second)
    (h' : second.Drains third) : first.Drains third := by
  intro signal hblocked
  rcases h' signal hblocked with hempty | ⟨hblocked', hle'⟩
  · exact .inl hempty
  · rcases h signal hblocked' with hempty | ⟨hblocked'', hle⟩
    · rw [hempty, List.length_nil, Nat.le_zero, List.length_eq_zero_iff] at hle'
      exact .inl hle'
    · exact .inr ⟨hblocked'', hle'.trans hle⟩

/-- Draining keeps clean signals clean. -/
theorem Drains.clean {s s' : SignalState} (h : s.Drains s') {signal : Nat} (hs : s.Clean signal) :
    s'.Clean signal := by
  by_cases hblocked : signal ∈ s'.blocked
  · exact .inl hblocked
  · rcases h signal hblocked with hempty | ⟨hblocked', hle⟩
    · exact .inr hempty
    · rw [hs.resolve_left hblocked', List.length_nil, Nat.le_zero, List.length_eq_zero_iff] at hle
      exact .inr hle

theorem Drains.settled {s s' : SignalState} (h : s.Drains s') (hs : s.Settled) : s'.Settled :=
  fun signal ↦ h.clean (hs signal)

/-- All signals drain into settled ones. -/
theorem Settled.drains (s : SignalState) {s' : SignalState} (h : s'.Settled) : s.Drains s' :=
  fun signal hblocked ↦ .inl ((h signal).resolve_left hblocked)

/-- Posting drains, because only a blocked signal gets a record. -/
theorem drains_receive {s : SignalState} (hq : s.queue.Sound) (o : Occurrence) :
    s.Drains (s.receive o).2 := by
  by_cases hqueued : (s.receive o).1 = .ok .queued
  · intro signal hblocked
    rw [blocked_receive] at hblocked
    have hne : signal ≠ o.signal := by
      rintro rfl
      rw [receive, if_neg fun h ↦ hblocked (isBlocked_iff.1 h)] at hqueued
      cases hqueued
    rw [records_receive hq hqueued, if_neg hne]
    exact .inr ⟨hblocked, Nat.le_refl _⟩
  · rw [receive_of_ne_queued hqueued]
    exact .refl s

/-- Taking a record drains. -/
theorem Taken.drains {s s' : SignalState} {signal : Nat} {o : Occurrence}
    (h : s.Taken signal o s') : s.Drains s' := by
  intro other hblocked
  rw [h.blocked_eq] at hblocked
  by_cases hother : other = signal
  · subst hother
    rw [h.records_eq, List.length_cons]
    exact .inr ⟨hblocked, Nat.le_succ _⟩
  · rw [h.records_of_ne other hother]
    exact .inr ⟨hblocked, Nat.le_refl _⟩

/-- A signal is clean exactly if it is not deliverable. -/
theorem clean_iff {s : SignalState} (hq : s.queue.Sound) {signal : Nat} :
    s.Clean signal ↔ signal ∉ s.deliverable := by
  unfold Clean deliverable
  rw [SignalSet.mem_sdiff, mem_pending hq]
  tauto

theorem settled_iff_deliverable {s : SignalState} (hq : s.queue.Sound) :
    s.Settled ↔ s.deliverable = ∅ := by
  constructor
  · intro h
    apply SignalSet.ext_mem
    intro signal
    exact iff_of_false ((clean_iff hq).1 (h signal)) (SignalSet.not_mem_empty signal)
  · intro h signal
    rw [clean_iff hq, h]
    exact SignalSet.not_mem_empty signal

/-- Nothing is deliverable exactly if every pending signal is blocked. -/
theorem settled_iff_pending {s : SignalState} (hq : s.queue.Sound) :
    s.Settled ↔ ∀ signal ∈ s.pending, signal ∈ s.blocked := by
  refine forall_congr' fun signal ↦ ?_
  unfold Clean
  rw [mem_pending hq]
  tauto

/-- A new thread's signals are settled. -/
theorem settled_ofMask (mask : SignalSet) (capacity : Nat) : (ofMask mask capacity).Settled :=
  fun signal ↦ .inr (records_ofMask mask capacity signal)

end SignalKernel.SignalState
