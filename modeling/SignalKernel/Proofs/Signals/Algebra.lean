import Mathlib.Algebra.Order.Interval.Finset.SuccPred
import Mathlib.Data.Nat.SuccPred
import Mathlib.Order.Interval.Finset.Nat
import SignalKernel.SignalSet.Register

/-!
# The algebra of sets

A set of signals is a subset of the numbers from 1 to 64. What a call on a register makes of it can
be said for one number at a time: whether the number is a member afterwards depends on whether it
was one before, and on nothing else in the register (`contains_answer`). So it goes for any sequence
of calls, and for the operators in both of their forms. The main theorem is `isSubset`.
-/

namespace SignalKernel.SignalSet

variable {s t : SignalSet} {signal : Nat}

/-! ## One number at a time -/

/-- What an operator makes of the truth values of a number. -/
def Operator.combine : Operator → (register set : Bool) → Bool
  | .union, register, set => register || set
  | .inter, register, set => register && set
  | .sdiff, register, set => register && !set

/-- What a call makes of whether the number is a member. -/
def RegisterCall.makes (signal : Nat) (before : Bool) : RegisterCall → Bool
  | .insert other => before || (signal == other && Signal.isValid other)
  | .erase other => before && signal != other
  | .union set => Operator.union.combine before (set.contains signal)
  | .inter set => Operator.inter.combine before (set.contains signal)
  | .sdiff set => Operator.sdiff.combine before (set.contains signal)
  | .assign operator set => operator.combine before (set.contains signal)
  | .replace set => set.contains signal
  | .complement => Signal.isValid signal && !before
  | .contains _ | .equals _ | .word | .isEmpty | .size | .first | .members | .traverse _
  | .compact | .indented | .compactHexadecimal | .dump | .unknown => before

theorem contains_union : (s ∪ t).contains signal = (s.contains signal || t.contains signal) := by
  rw [Bool.eq_iff_iff, Bool.or_eq_true]
  exact mem_union

theorem contains_inter : (s ∩ t).contains signal = (s.contains signal && t.contains signal) := by
  rw [Bool.eq_iff_iff, Bool.and_eq_true]
  exact mem_inter

theorem contains_sdiff : (s \ t).contains signal = (s.contains signal && !t.contains signal) := by
  rw [Bool.eq_iff_iff, Bool.and_eq_true, Bool.not_eq_true', ← Bool.not_eq_true]
  exact mem_sdiff

theorem contains_complement :
    (~~~s).contains signal = (Signal.isValid signal && !s.contains signal) := by
  rw [Bool.eq_iff_iff, Bool.and_eq_true, Bool.not_eq_true', ← Bool.not_eq_true]
  exact mem_complement

theorem contains_single {other : Nat} :
    (single other).contains signal = (signal == other && Signal.isValid other) := by
  rw [Bool.eq_iff_iff, Bool.and_eq_true, beq_iff_eq]
  exact mem_single

/-- Both forms of an operator do the same to a number. -/
theorem contains_assign (operator : Operator) :
    SignalSet.contains ⟨operator.assign s.bits t.bits⟩ signal =
      operator.combine (s.contains signal) (t.contains signal) := by
  cases operator with
  | union => exact contains_union
  | inter => exact contains_inter
  | sdiff => exact contains_sdiff

theorem contains_insert {other : Nat} : (s.checked (s.insert? other)).2.contains signal =
    (s.contains signal || (signal == other && Signal.isValid other)) := by
  rw [← contains_single, ← contains_union, insert?]
  split
  case isTrue => rfl
  case isFalse hinvalid =>
    rw [contains_union, contains_single, Bool.eq_false_iff.2 hinvalid, Bool.and_false,
      Bool.or_false]
    rfl

theorem contains_erase {other : Nat} : (s.checked (s.erase? other)).2.contains signal =
    (s.contains signal && signal != other) := by
  rw [erase?]
  split
  case isTrue hvalid =>
    show (s \ single other).contains signal = _
    rw [contains_sdiff, contains_single, hvalid, Bool.and_true]
    rfl
  case isFalse hinvalid =>
    show s.contains signal = _
    -- the invalid number was no member
    cases hmem : s.contains signal with
    | false => rfl
    | true =>
        have hne : signal ≠ other := by
          rintro rfl
          exact hinvalid (isValid_of_mem hmem)
        rw [Bool.true_and, bne_iff_ne.2 hne]

/-- Membership of a number goes its own way. -/
theorem contains_answer (s : SignalSet) (call : RegisterCall) (signal : Nat) :
    (s.answer call).2.contains signal = call.makes signal (s.contains signal) := by
  cases call with
  | insert other => exact contains_insert
  | erase other => exact contains_erase
  | union set => exact contains_union
  | inter set => exact contains_inter
  | sdiff set => exact contains_sdiff
  | assign operator set => exact contains_assign operator
  | complement => exact contains_complement
  | replace | contains | equals | word | isEmpty | size | first | members | traverse | compact
  | indented | compactHexadecimal | dump | unknown => rfl

/-- A change of one number is made if the number is valid, and refused otherwise; a refusal leaves
the register as it is. -/
def IsChecked (s : SignalSet) (signal : Nat) (result : RegisterAnswer × SignalSet) : Prop :=
  if Signal.isValid signal then result.1 = .done else result = (.refused .invalidSignal, s)

theorem isChecked (s changed : SignalSet) (signal : Nat) :
    s.IsChecked signal (s.checked (if Signal.isValid signal then some changed else none)) := by
  rw [IsChecked]
  split <;> rfl

/-! ## Sequences of calls -/

/-- The register after calls. -/
def after (s : SignalSet) (calls : List RegisterCall) : SignalSet :=
  calls.foldl (fun s call ↦ (s.answer call).2) s

/-- A call is answered by the register after the calls before it. -/
theorem answers_append_singleton (s : SignalSet) (calls : List RegisterCall)
    (call : RegisterCall) :
    s.answers (calls ++ [call]) = s.answers calls ++ [(s.after calls).answer call] := by
  induction calls generalizing s with
  | nil => rfl
  | cons earlier rest ih =>
      show s.answer earlier :: (s.answer earlier).2.answers (rest ++ [call]) = _
      rw [ih]
      rfl

theorem contains_after (s : SignalSet) (calls : List RegisterCall) (signal : Nat) :
    (s.after calls).contains signal = calls.foldl (RegisterCall.makes signal)
      (s.contains signal) := by
  induction calls generalizing s with
  | nil => rfl
  | cons earlier rest ih =>
      show ((s.answer earlier).2.after rest).contains signal = _
      rw [ih, contains_answer]
      rfl

/-! ## Members -/

/-- Sets that are asked about all numbers of 32 bits can be told apart. -/
theorem eq_iff_contains :
    s = t ↔ ∀ signal < 2 ^ 32, s.contains signal = t.contains signal := by
  refine ⟨fun h signal _ ↦ by rw [h], fun h ↦ ext_mem fun signal ↦ ?_⟩
  by_cases hsignal : signal < 2 ^ 32
  · exact Bool.eq_iff_iff.1 (h signal hsignal)
  · have hout (u : SignalSet) : signal ∉ u := by
      intro hmem
      have hrange := Signal.isValid_iff.1 (isValid_of_mem hmem)
      omega
    exact iff_of_false (hout s) (hout t)

/-- A set is made from a list exactly if its members are the valid numbers of the list. -/
theorem eq_ofList_iff {signals : List Nat} :
    s = ofList signals ↔ ∀ signal, signal ∈ s ↔ signal ∈ signals ∧ Signal.isValid signal := by
  constructor
  case mp =>
    rintro rfl signal
    exact mem_ofList
  case mpr =>
    intro h
    exact ext_mem fun signal ↦ (h signal).trans mem_ofList.symm

/-- Counting the lowest bits counts the members among the lowest numbers. -/
theorem cpopNatRec_eq_card (s : SignalSet) {count : Nat} (h : count ≤ 64) :
    s.bits.cpopNatRec count 0 = {signal ∈ Finset.Icc 1 count | signal ∈ s}.card := by
  induction count with
  | zero => rfl
  | succ count ih =>
      have hvalid : Signal.isValid (count + 1) := Signal.isValid_iff.2 ⟨by omega, h⟩
      have hmem : count + 1 ∈ s ↔ s.bits.getLsbD count := by
        rw [mem_def]
        exact and_iff_right hvalid
      rw [BitVec.cpopNatRec_succ, BitVec.cpopNatRec_eq, ih (by omega),
        ← Finset.insert_Icc_right_eq_Icc_add_one (by omega), Finset.filter_insert]
      cases hbit : s.bits.getLsbD count with
      | false =>
          rw [if_neg (Bool.eq_false_iff.1 hbit ∘ hmem.1)]
          rfl
      | true =>
          have hnew : count + 1 ∉ ({signal ∈ Finset.Icc 1 count | signal ∈ s} : Finset Nat) := by
            intro hin
            have hle := (Finset.mem_Icc.1 (Finset.mem_filter.1 hin).1).2
            omega
          rw [if_pos (hmem.2 hbit), Finset.card_insert_of_notMem hnew]
          rfl

theorem size_eq_card (s : SignalSet) : s.size = {signal ∈ Finset.Icc 1 64 | signal ∈ s}.card := by
  rw [size, BitVec.toNat_cpop]
  exact cpopNatRec_eq_card s (Nat.le_refl 64)

theorem isEmpty_iff_forall : s.isEmpty ↔ ∀ signal, signal ∉ s := by
  rw [isEmpty_iff]
  constructor
  case mp =>
    rintro rfl
    exact not_mem_empty
  case mpr =>
    intro h
    exact ext_mem fun signal ↦ iff_of_false (h signal) (not_mem_empty signal)

/-! ## The algebra -/

/-- The set is a subset of the numbers from 1 to 64, and calls treat it as one. -/
structure IsSubset (s : SignalSet) : Prop where
  eq_iff : ∀ t : SignalSet, s = t ↔ ∀ signal < 2 ^ 32, s.contains signal = t.contains signal
  within : ∀ signal, s.contains signal → 1 ≤ signal ∧ signal ≤ 64
  contains_after : ∀ (calls : List RegisterCall) (signal : Nat), (s.after calls).contains signal =
    calls.foldl (RegisterCall.makes signal) (s.contains signal)
  answered : ∀ (calls : List RegisterCall) (call : RegisterCall),
    s.answers (calls ++ [call]) = s.answers calls ++ [(s.after calls).answer call]
  insert : ∀ signal, s.IsChecked signal (s.answer (.insert signal))
  erase : ∀ signal, s.IsChecked signal (s.answer (.erase signal))
  /-- Order and repetitions in a list make no difference. -/
  eq_ofList_iff : ∀ signals : List Nat, s = ofList signals ↔
    ∀ signal, s.contains signal ↔ signal ∈ signals ∧ Signal.isValid signal
  size_eq : s.size = {signal ∈ Finset.Icc 1 64 | s.contains signal}.card
  isEmpty_iff : s.isEmpty ↔ ∀ signal, ¬ s.contains signal

theorem isSubset (s : SignalSet) : s.IsSubset := by
  constructor
  case eq_iff => exact fun t ↦ eq_iff_contains
  case within => exact fun signal h ↦ Signal.isValid_iff.1 (isValid_of_mem h)
  case contains_after => exact s.contains_after
  case answered => exact s.answers_append_singleton
  case insert => exact fun signal ↦ s.isChecked _ signal
  case erase => exact fun signal ↦ s.isChecked _ signal
  case eq_ofList_iff => exact fun signals ↦ eq_ofList_iff
  case size_eq => exact s.size_eq_card
  case isEmpty_iff => exact isEmpty_iff_forall

end SignalKernel.SignalSet
