import SignalKernel.SignalSet.Basic

/-!
# The members of a set in ascending order

A cursor stands between the members already visited and those still to come, which it holds as a
set. Each step finds the lowest set bit and clears it by combining the word with its predecessor, so
a traversal takes one step for each member and never visits an absent one. `mem_toList` says that it
visits every member.
-/

namespace SignalKernel.SignalSet

/-- The lowest member. -/
def first? (s : SignalSet) : Option Nat :=
  if s.isEmpty then none else some (s.bits.ctz.toNat + 1)

/-- The set without its lowest member: a word and its predecessor differ from the lowest set bit
downwards. -/
def withoutFirst (s : SignalSet) : SignalSet :=
  ⟨s.bits &&& (s.bits - 1)⟩

/-- A traversal in progress, as the members still to come. -/
structure Cursor where
  remaining : SignalSet
deriving DecidableEq

/-- The traversal of a set, before its first member. -/
def cursor (s : SignalSet) : Cursor :=
  ⟨s⟩

namespace Cursor

/-- The next member, and the traversal behind it. -/
def next? (c : Cursor) : Option (Nat × Cursor) :=
  c.remaining.first?.map fun signal ↦ (signal, ⟨c.remaining.withoutFirst⟩)

/-- The results of asking for the next member a number of times, and the traversal behind them. A
traversal at its end stays there. -/
def take : Nat → Cursor → List (Option Nat) × Cursor
  | 0, c => ([], c)
  | n + 1, c =>
      match c.next? with
      | none =>
          let (rest, last) := take n c
          (none :: rest, last)
      | some (signal, following) =>
          let (rest, last) := take n following
          (some signal :: rest, last)

/-- The next members, at most `limit` of them. -/
def collect : Nat → Cursor → List Nat
  | 0, _ => []
  | limit + 1, c =>
      match c.next? with
      | none => []
      | some (signal, following) => signal :: collect limit following

/-- A lower and an upper bound on the number of members still to come. The word tells it exactly. -/
def sizeBounds (c : Cursor) : Nat × Nat :=
  (c.remaining.size, c.remaining.size)

/-- The members still to come. No set has more than 64. -/
def toList (c : Cursor) : List Nat :=
  c.collect 64

end Cursor

/-- The members in ascending order. -/
def toList (s : SignalSet) : List Nat :=
  s.cursor.toList

/-- The lowest member is a member. -/
theorem mem_of_first? {s : SignalSet} {signal : Nat} (h : s.first? = some signal) :
    signal ∈ s := by
  unfold first? at h
  split at h
  · cases h
  · rename_i hempty
    cases h
    have hne : s.bits ≠ 0#64 := by simpa [isEmpty] using hempty
    have hlt := BitVec.ctz_lt_iff_ne_zero.2 hne
    rw [mem_def]
    refine ⟨Signal.isValid_iff.2 ⟨by omega, ?_⟩, ?_⟩
    · have : s.bits.ctz.toNat < 64 := by simpa [BitVec.lt_def] using hlt
      omega
    · simpa using BitVec.getLsbD_true_ctz_of_ne_zero hne

/-- Only the empty set has no lowest member. -/
theorem first?_eq_none_iff {s : SignalSet} : s.first? = none ↔ s = ∅ := by
  rw [← isEmpty_iff]
  unfold first?
  split <;> simp_all

/-- No member is lower than the lowest one. -/
theorem le_of_first? {s : SignalSet} {first signal : Nat} (h : s.first? = some first)
    (hsignal : signal ∈ s) : first ≤ signal := by
  unfold first? at h
  split at h
  · cases h
  · cases h
    obtain ⟨hvalid, hbit⟩ := mem_def.1 hsignal
    have hrange := Signal.isValid_iff.1 hvalid
    refine Nat.le_of_not_lt fun hlt ↦ ?_
    rw [BitVec.getLsbD_false_of_lt_ctz (by omega)] at hbit
    cases hbit

/-- Clearing the lowest set bit leaves the members that have a lower one. -/
theorem mem_withoutFirst {s : SignalSet} {signal : Nat} :
    signal ∈ s.withoutFirst ↔ signal ∈ s ∧ ∃ other ∈ s, other < signal := by
  rw [mem_def, mem_def, withoutFirst, show s.bits - 1 = ~~~(-s.bits) from (BitVec.not_neg _).symm,
    BitVec.getLsbD_and, BitVec.getLsbD_not, BitVec.getLsbD_neg]
  constructor
  · rintro ⟨hvalid, hbits⟩
    have hrange := Signal.isValid_iff.1 hvalid
    cases hbit : s.bits.getLsbD (signal - 1) with
    | false => simp [hbit] at hbits
    | true =>
        by_cases hlower : ∃ i, i < signal - 1 ∧ s.bits.getLsbD i = true
        · obtain ⟨i, hi, hlower⟩ := hlower
          refine ⟨⟨hvalid, rfl⟩, i + 1, mem_def.2 ⟨Signal.isValid_iff.2 ?_, hlower⟩, ?_⟩ <;> omega
        · have hlt : signal - 1 < 64 := by omega
          simp [hlower, hlt] at hbits
  · rintro ⟨⟨hvalid, hbit⟩, other, hother, hlt⟩
    have hrange := Signal.isValid_iff.1 hvalid
    obtain ⟨hvalid', hbit'⟩ := mem_def.1 hother
    have hrange' := Signal.isValid_iff.1 hvalid'
    have hlower : ∃ i, i < signal - 1 ∧ s.bits.getLsbD i = true := ⟨other - 1, by omega, hbit'⟩
    have hlt64 : signal - 1 < 64 := by omega
    exact ⟨hvalid, by simp [hbit, hlower, hlt64]⟩

/-- A traversal visits what it has still to come. Each step leaves higher members only, so the limit
is enough if no more than `limit` signals are high enough to be members. -/
theorem mem_collect {s : SignalSet} {limit : Nat} (h : ∀ signal ∈ s, 64 < signal + limit)
    {signal : Nat} : signal ∈ Cursor.collect limit ⟨s⟩ ↔ signal ∈ s := by
  induction limit generalizing s with
  | zero =>
      rw [Cursor.collect]
      refine iff_of_false List.not_mem_nil fun hsignal ↦ ?_
      have hrange := Signal.isValid_iff.1 (isValid_of_mem hsignal)
      have hhigh := h signal hsignal
      omega
  | succ limit ih =>
      rw [Cursor.collect, Cursor.next?]
      cases hfirst : s.first? with
      | none =>
          rw [first?_eq_none_iff.1 hfirst]
          exact iff_of_false List.not_mem_nil (not_mem_empty signal)
      | some first =>
          have hmem := mem_of_first? hfirst
          have hhigher : ∀ signal ∈ s.withoutFirst, 64 < signal + limit := by
            intro signal hsignal
            obtain ⟨-, other, hother, hlt⟩ := mem_withoutFirst.1 hsignal
            have hhigh := h other hother
            omega
          show signal ∈ first :: Cursor.collect limit ⟨s.withoutFirst⟩ ↔ signal ∈ s
          rw [List.mem_cons, ih hhigher, mem_withoutFirst]
          constructor
          · rintro (rfl | hsignal)
            · exact hmem
            · exact hsignal.1
          · intro hsignal
            rcases Nat.lt_or_eq_of_le (le_of_first? hfirst hsignal) with hlt | rfl
            · exact .inr ⟨hsignal, first, hmem, hlt⟩
            · exact .inl rfl

/-- The list of a set has the set's members. -/
@[simp] theorem mem_toList {s : SignalSet} {signal : Nat} : signal ∈ s.toList ↔ signal ∈ s := by
  refine mem_collect fun member hmember ↦ ?_
  have hrange := Signal.isValid_iff.1 (isValid_of_mem hmember)
  omega

end SignalKernel.SignalSet
