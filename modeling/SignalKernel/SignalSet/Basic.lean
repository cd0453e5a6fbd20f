import SignalKernel.Signal.Number

/-!
# Sets of signals

A set of signals is one machine word: signal `n` is bit `n - 1`. Every word is a set, so sets can be
compared and combined word by word. The main statement is `ext_mem`: two sets are equal exactly if
they have the same members. The other lemmas say what each operation does to membership.
-/

namespace SignalKernel

/-- A set of signals, as a word with one bit for each of the 64. -/
structure SignalSet where
  bits : BitVec 64
deriving DecidableEq

namespace SignalSet

/-- The number names a signal and the signal's bit is set. -/
def contains (s : SignalSet) (signal : Nat) : Bool :=
  Signal.isValid signal && s.bits.getLsbD (signal - 1)

instance : Membership Nat SignalSet where
  mem s signal := s.contains signal = true

instance (signal : Nat) (s : SignalSet) : Decidable (signal ∈ s) :=
  inferInstanceAs (Decidable (s.contains signal = true))

instance : EmptyCollection SignalSet where
  emptyCollection := ⟨0⟩

/-- Every signal. -/
def full : SignalSet :=
  ⟨BitVec.allOnes 64⟩

/-- The set of one signal; without a member if the number names none. -/
def single (signal : Nat) : SignalSet :=
  ⟨Signal.bit signal⟩

instance : Union SignalSet where
  union s t := ⟨s.bits ||| t.bits⟩

instance : Inter SignalSet where
  inter s t := ⟨s.bits &&& t.bits⟩

instance : SDiff SignalSet where
  sdiff s t := ⟨s.bits &&& ~~~t.bits⟩

instance : Complement SignalSet where
  complement s := ⟨~~~s.bits⟩

/-- The set of the valid numbers of a list; the others are left out. -/
def ofList (signals : List Nat) : SignalSet :=
  signals.foldl (fun s signal ↦ s ∪ single signal) ∅

/-- The set with one more member; only a valid number can become one. -/
def insert? (s : SignalSet) (signal : Nat) : Option SignalSet :=
  if Signal.isValid signal then some (s ∪ single signal) else none

/-- The set without one member; only a valid number can be one. -/
def erase? (s : SignalSet) (signal : Nat) : Option SignalSet :=
  if Signal.isValid signal then some (s \ single signal) else none

/-- The set has no member. -/
def isEmpty (s : SignalSet) : Bool :=
  s.bits == 0

/-- The number of members, counted as bits of the word. -/
def size (s : SignalSet) : Nat :=
  s.bits.cpop.toNat

/-! ## Membership -/

theorem mem_def {signal : Nat} {s : SignalSet} :
    signal ∈ s ↔ Signal.isValid signal ∧ s.bits.getLsbD (signal - 1) := by
  simp [Membership.mem, contains]

/-- Only valid numbers are members. -/
theorem isValid_of_mem {signal : Nat} {s : SignalSet} (h : signal ∈ s) : Signal.isValid signal :=
  (mem_def.1 h).1

/-- The signal at a position is a member exactly if the bit at that position is set. -/
theorem ofLane_mem {lane : Fin 64} {s : SignalSet} :
    Signal.ofLane lane ∈ s ↔ s.bits.getLsbD lane = true := by
  rw [mem_def, Signal.isValid_ofLane]
  simp [Signal.ofLane]

/-- Sets with the same members are equal. -/
theorem ext_mem {s t : SignalSet} (h : ∀ signal, signal ∈ s ↔ signal ∈ t) : s = t := by
  obtain ⟨s⟩ := s
  obtain ⟨t⟩ := t
  congr 1
  apply BitVec.eq_of_getLsbD_eq
  intro i hi
  have hlane := h (Signal.ofLane ⟨i, hi⟩)
  rw [ofLane_mem, ofLane_mem] at hlane
  exact Bool.eq_iff_iff.2 hlane

@[simp] theorem not_mem_empty (signal : Nat) : signal ∉ (∅ : SignalSet) := by
  simp [mem_def, EmptyCollection.emptyCollection]

@[simp] theorem mem_full {signal : Nat} : signal ∈ full ↔ Signal.isValid signal := by
  rw [mem_def, full, BitVec.getLsbD_allOnes, decide_eq_true_eq]
  refine and_iff_left_of_imp fun h ↦ ?_
  have hrange := Signal.isValid_iff.1 h
  omega

@[simp] theorem mem_single {signal other : Nat} :
    signal ∈ single other ↔ signal = other ∧ Signal.isValid other := by
  rw [mem_def, single, Signal.bit]
  split
  · rename_i hother
    rw [BitVec.getLsbD_twoPow, Bool.and_eq_true, decide_eq_true_eq, decide_eq_true_eq]
    rw [Signal.isValid_iff] at hother ⊢
    rw [Signal.isValid_iff]
    omega
  · rename_i hother
    simp [hother]

@[simp] theorem mem_union {signal : Nat} {s t : SignalSet} :
    signal ∈ s ∪ t ↔ signal ∈ s ∨ signal ∈ t := by
  simp only [mem_def, Union.union, BitVec.getLsbD_or, Bool.or_eq_true]
  exact and_or_left

@[simp] theorem mem_inter {signal : Nat} {s t : SignalSet} :
    signal ∈ s ∩ t ↔ signal ∈ s ∧ signal ∈ t := by
  simp only [mem_def, Inter.inter, BitVec.getLsbD_and, Bool.and_eq_true]
  exact and_and_left

@[simp] theorem mem_complement {signal : Nat} {s : SignalSet} :
    signal ∈ ~~~s ↔ Signal.isValid signal ∧ signal ∉ s := by
  have hnot : (~~~s).bits = ~~~s.bits := rfl
  rw [mem_def, mem_def, hnot, BitVec.getLsbD_not]
  by_cases h : Signal.isValid signal
  · have hrange := Signal.isValid_iff.1 h
    simp [h, show signal - 1 < 64 by omega]
  · simp [h]

@[simp] theorem mem_sdiff {signal : Nat} {s t : SignalSet} :
    signal ∈ s \ t ↔ signal ∈ s ∧ signal ∉ t := by
  have h : s \ t = s ∩ ~~~t := rfl
  rw [h, mem_inter, mem_complement]
  constructor
  · exact fun ⟨hs, _, ht⟩ ↦ ⟨hs, ht⟩
  · exact fun ⟨hs, ht⟩ ↦ ⟨hs, isValid_of_mem hs, ht⟩

/-- The set of a list has the list's valid numbers as members. -/
@[simp] theorem mem_ofList {signal : Nat} {signals : List Nat} :
    signal ∈ ofList signals ↔ signal ∈ signals ∧ Signal.isValid signal := by
  have hfold : ∀ s : SignalSet, signal ∈ signals.foldl (fun s signal ↦ s ∪ single signal) s ↔
      signal ∈ s ∨ signal ∈ signals ∧ Signal.isValid signal := by
    induction signals with
    | nil => simp
    | cons first rest ih =>
        intro s
        rw [List.foldl_cons, ih, mem_union, mem_single, List.mem_cons, or_assoc, or_and_right]
        refine or_congr_right (or_congr_left (and_congr_right ?_))
        rintro rfl
        rfl
  rw [ofList, hfold]
  exact or_iff_right (not_mem_empty signal)

/-- A set is empty exactly if it equals the empty set. -/
theorem isEmpty_iff {s : SignalSet} : s.isEmpty ↔ s = ∅ := by
  obtain ⟨s⟩ := s
  simp [isEmpty, EmptyCollection.emptyCollection]

end SignalSet

end SignalKernel
