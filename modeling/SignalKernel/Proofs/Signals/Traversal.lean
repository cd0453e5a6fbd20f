import Mathlib.Data.List.Nodup
import Mathlib.Data.List.Sort
import SignalKernel.Proofs.Signals.Algebra
import SignalKernel.SignalSet.Members

/-!
# Traversals ascend

A traversal of a set visits each member once, in ascending order. Its list is therefore what is left
of all signals in order when the others are taken out: `toList_eq_filter`.

A cursor stands for the list of the members that it has still to visit. Asking it for the next one
takes the head of that list (`next?_eq`), so asking it many times takes that many elements and then
nothing for ever (`visited_take`). The main theorem, `isTraversed`, says this of the traversal of a
set, together with what the list has to do with the set.
-/

namespace SignalKernel.SignalSet

/-- Every step of a traversal leaves higher members only. -/
theorem pairwise_collect (limit : Nat) (s : SignalSet) :
    (Cursor.collect limit ⟨s⟩).Pairwise (· < ·) ∧
      ∀ signal ∈ Cursor.collect limit ⟨s⟩, signal ∈ s := by
  induction limit generalizing s with
  | zero => exact ⟨List.Pairwise.nil, fun signal hsignal ↦ absurd hsignal List.not_mem_nil⟩
  | succ limit ih =>
      rw [Cursor.collect, Cursor.next?]
      cases hfirst : s.first? with
      | none => exact ⟨List.Pairwise.nil, fun signal hsignal ↦ absurd hsignal List.not_mem_nil⟩
      | some first =>
          obtain ⟨hpairwise, hmem⟩ := ih s.withoutFirst
          have hrest : ∀ signal ∈ Cursor.collect limit ⟨s.withoutFirst⟩,
              signal ∈ s ∧ first < signal := by
            intro signal hsignal
            obtain ⟨hs, other, hother, hlt⟩ := mem_withoutFirst.1 (hmem signal hsignal)
            exact ⟨hs, Nat.lt_of_le_of_lt (le_of_first? hfirst hother) hlt⟩
          refine ⟨List.pairwise_cons.2 ⟨fun signal hsignal ↦ (hrest signal hsignal).2, hpairwise⟩,
            fun signal hsignal ↦ ?_⟩
          rcases List.mem_cons.1 hsignal with rfl | hsignal
          · exact mem_of_first? hfirst
          · exact (hrest signal hsignal).1

/-- The list of a set is in ascending order. -/
theorem pairwise_toList (s : SignalSet) : s.toList.Pairwise (· < ·) :=
  (pairwise_collect 64 s).1

/-- There is only one list of a set's members in ascending order. -/
theorem eq_toList_of_pairwise {s : SignalSet} {signals : List Nat}
    (hpairwise : signals.Pairwise (· < ·)) (hmem : ∀ signal, signal ∈ signals ↔ signal ∈ s) :
    signals = s.toList :=
  hpairwise.eq_of_mem_iff (pairwise_toList s) fun signal ↦ (hmem signal).trans mem_toList.symm

/-- The list of a set is all numbers in order, less those that are not in the set. -/
theorem toList_eq_filter (s : SignalSet) : s.toList = (List.range 65).filter (· ∈ s) := by
  refine (eq_toList_of_pairwise (List.pairwise_lt_range.filter _) fun signal ↦ ?_).symm
  rw [List.mem_filter, List.mem_range, decide_eq_true_eq, and_iff_right_iff_imp]
  intro hsignal
  exact Nat.lt_succ_of_le (Signal.isValid_iff.1 (isValid_of_mem hsignal)).2

/-! ## The list and its set -/

section List

variable {s : SignalSet}

theorem toList_of_first?_eq_none (h : s.first? = none) : s.toList = [] := by
  rw [List.eq_nil_iff_forall_not_mem]
  intro signal hsignal
  rw [mem_toList, first?_eq_none_iff.1 h] at hsignal
  exact not_mem_empty signal hsignal

/-- The list starts with the lowest member, and goes on with the set without it. -/
theorem toList_of_first?_eq_some {first : Nat} (h : s.first? = some first) :
    s.toList = first :: s.withoutFirst.toList := by
  refine (eq_toList_of_pairwise (List.pairwise_cons.2 ⟨?_, pairwise_toList _⟩) ?_).symm
  · intro signal hsignal
    rw [mem_toList, mem_withoutFirst] at hsignal
    obtain ⟨-, other, hother, hlt⟩ := hsignal
    exact Nat.lt_of_le_of_lt (le_of_first? h hother) hlt
  · intro signal
    rw [List.mem_cons, mem_toList, mem_withoutFirst]
    constructor
    case mp =>
      rintro (rfl | hsignal)
      · exact mem_of_first? h
      · exact hsignal.1
    case mpr =>
      intro hsignal
      rcases Nat.lt_or_eq_of_le (le_of_first? h hsignal) with hlt | rfl
      · exact .inr ⟨hsignal, first, mem_of_first? h, hlt⟩
      · exact .inl rfl

theorem head?_toList (s : SignalSet) : s.toList.head? = s.first? := by
  cases h : s.first? with
  | none => rw [toList_of_first?_eq_none h]; rfl
  | some first => rw [toList_of_first?_eq_some h]; rfl

theorem ofList_toList (s : SignalSet) : ofList s.toList = s := by
  apply ext_mem
  intro signal
  rw [mem_ofList, mem_toList]
  exact and_iff_left_of_imp isValid_of_mem

/-- Counting the bits of the word counts the members. -/
theorem length_toList (s : SignalSet) : s.toList.length = s.size := by
  rw [size_eq_card, ← List.toFinset_card_of_nodup ((pairwise_toList s).imp Nat.ne_of_lt)]
  congr 1
  ext signal
  rw [List.mem_toFinset, mem_toList, Finset.mem_filter, Finset.mem_Icc]
  exact (and_iff_right_of_imp fun h ↦ Signal.isValid_iff.1 (isValid_of_mem h)).symm

end List

/-! ## Asking a cursor -/

namespace Cursor

/-- Asking for the next member takes the head of the members still to come. -/
theorem next?_eq (c : Cursor) : c.next?.map (fun (signal, following) ↦ (signal, following.toList)) =
    match c.toList with
    | [] => none
    | signal :: rest => some (signal, rest) := by
  show (c.remaining.first?.map _).map _ = match c.remaining.toList with
    | [] => none
    | signal :: rest => some (signal, rest)
  cases h : c.remaining.first? with
  | none => rw [toList_of_first?_eq_none h]; rfl
  | some first => rw [toList_of_first?_eq_some h]; rfl

theorem toList_of_next?_eq_none {c : Cursor} (h : c.next? = none) : c.toList = [] := by
  have hnext := c.next?_eq
  rw [h, Option.map_none] at hnext
  cases hlist : c.toList with
  | nil => rfl
  | cons signal rest => simp [hlist] at hnext

theorem toList_of_next?_eq_some {c following : Cursor} {signal : Nat}
    (h : c.next? = some (signal, following)) : c.toList = signal :: following.toList := by
  have hnext := c.next?_eq
  rw [h, Option.map_some] at hnext
  cases hlist : c.toList with
  | nil => simp [hlist] at hnext
  | cons first rest =>
      simp only [hlist, Option.some.injEq, Prod.mk.injEq] at hnext
      rw [hnext.1, hnext.2]

/-- A cursor at its end stays there, and brings nothing. -/
theorem take_of_next?_eq_none {c : Cursor} (h : c.next? = none) (n : Nat) :
    take n c = (List.replicate n none, c) := by
  induction n with
  | zero => rfl
  | succ n ih =>
      rw [take, h]
      simp only [ih]
      rfl

/-- Asking a number of times brings that many of the members still to come, and nothing once they
are used up. -/
theorem visited_take (n : Nat) (c : Cursor) :
    (take n c).1 = (c.toList.take n).map some ++ List.replicate (n - c.toList.length) none ∧
      (take n c).2.toList = c.toList.drop n := by
  induction n generalizing c with
  | zero => simp [take]
  | succ n ih =>
      cases hnext : c.next? with
      | none =>
          rw [take_of_next?_eq_none hnext, toList_of_next?_eq_none hnext]
          exact ⟨rfl, rfl⟩
      | some found =>
          obtain ⟨signal, following⟩ := found
          obtain ⟨hvisited, hleft⟩ := ih following
          rw [take, hnext, toList_of_next?_eq_some hnext]
          simp only [hvisited, hleft, List.take_succ_cons, List.drop_succ_cons, List.map_cons,
            List.cons_append, List.length_cons, Nat.add_sub_add_right, and_self]

/-- The bounds on the number of members still to come are that number. -/
theorem sizeBounds_eq (c : Cursor) : c.sizeBounds = (c.toList.length, c.toList.length) := by
  have hlength : c.toList.length = c.remaining.size := c.remaining.length_toList
  rw [hlength]
  rfl

/-- A cursor at its end has nothing still to come. -/
theorem next?_eq_none_iff {c : Cursor} : c.next? = none ↔ c.toList.length = 0 := by
  rw [List.length_eq_zero_iff]
  constructor
  case mp => exact toList_of_next?_eq_none
  case mpr =>
    intro hlist
    cases hnext : c.next? with
    | none => rfl
    | some found =>
        rw [toList_of_next?_eq_some hnext] at hlist
        cases hlist

end Cursor

/-! ## The traversal of a set -/

/-- The traversal of the set goes through its members, from the lowest to the highest, and then
stays at its end. -/
structure IsTraversed (s : SignalSet) : Prop where
  ascending : s.toList.Pairwise (· < ·)
  members : ∀ signal, signal ∈ s.toList ↔ s.contains signal
  ofList_eq : ofList s.toList = s
  length_eq : s.toList.length = s.size
  head?_eq : s.toList.head? = s.first?
  /-- Asking for the next member time and again brings the list, then nothing. -/
  visited : ∀ n, (s.cursor.take n).1 =
    (s.toList.take n).map some ++ List.replicate (n - s.size) none
  /-- The traversal is at its end when it was asked once for each member. -/
  ended_iff : ∀ n, (s.cursor.take n).2.next? = none ↔ s.size ≤ n
  /-- The lowest members are those that were visited. -/
  remaining : ∀ n, (s.cursor.take n).2.remaining = s \ ofList (s.toList.take n)
  left : ∀ n, (s.cursor.take n).2.toList = s.toList.drop n
  sizeBounds : ∀ n, (s.cursor.take n).2.sizeBounds =
    ((s.toList.drop n).length, (s.toList.drop n).length)
  /-- From its end the traversal brings nothing, however often it is asked. -/
  stays : ∀ n more, (s.cursor.take n).2.next? = none →
    Cursor.take more (s.cursor.take n).2 = (List.replicate more none, (s.cursor.take n).2)

theorem toList_cursor (s : SignalSet) : s.cursor.toList = s.toList := rfl

/-- The set behind a cursor has lost the members that were visited. -/
theorem remaining_take (s : SignalSet) (n : Nat) :
    (s.cursor.take n).2.remaining = s \ ofList (s.toList.take n) := by
  have hleft : (s.cursor.take n).2.remaining.toList = s.toList.drop n :=
    (Cursor.visited_take n s.cursor).2
  have hnodup : s.toList.Nodup := (pairwise_toList s).imp Nat.ne_of_lt
  apply ext_mem
  intro signal
  rw [← mem_toList, hleft, mem_sdiff, mem_ofList, ← mem_toList (s := s)]
  constructor
  case mp =>
    intro hdrop
    exact ⟨List.mem_of_mem_drop hdrop, fun htake ↦
      List.disjoint_take_drop hnodup (Nat.le_refl n) htake.1 hdrop⟩
  case mpr =>
    rintro ⟨hmem, htake⟩
    rw [← List.take_append_drop n s.toList, List.mem_append] at hmem
    exact hmem.resolve_left fun h ↦
      htake ⟨h, isValid_of_mem (mem_toList.1 (List.mem_of_mem_take h))⟩

/-- Every word is traversed as a set. -/
theorem isTraversed (s : SignalSet) : s.IsTraversed := by
  have htake (n : Nat) := Cursor.visited_take n s.cursor
  constructor
  case ascending => exact pairwise_toList s
  case members => exact fun signal ↦ mem_toList
  case ofList_eq => exact ofList_toList s
  case length_eq => exact length_toList s
  case head?_eq => exact head?_toList s
  case visited =>
    intro n
    rw [(htake n).1, toList_cursor, length_toList]
  case ended_iff =>
    intro n
    rw [Cursor.next?_eq_none_iff, (htake n).2, toList_cursor, List.length_drop, length_toList]
    exact Nat.sub_eq_zero_iff_le
  case remaining => exact remaining_take s
  case left => exact fun n ↦ (htake n).2
  case sizeBounds =>
    intro n
    rw [Cursor.sizeBounds_eq, (htake n).2, toList_cursor]
  case stays => exact fun n more h ↦ Cursor.take_of_next?_eq_none h more

end SignalKernel.SignalSet
