/-!
# A first-in-first-out queue of limited size

The queue keeps its older entries in order and its newer ones in reverse, so that both ends are
reached at once, and it keeps its size, so that asking for it costs nothing. `toList` is the view
with the oldest entry first. The main statements, `toList_of_push?` and `toList_of_pop?`, say that
pushing appends to that list and popping takes its head; `push?_eq_none_iff` says that pushing fails
exactly when the queue is full.
-/

namespace SignalKernel

/-- A queue that holds at most `capacity` entries. -/
structure BoundedQueue (α : Type) where
  capacity : Nat
  /-- The older entries, the oldest first. -/
  front : List α
  /-- The newer entries, the newest first. -/
  back : List α
  size : Nat
  size_eq : size = front.length + back.length
  size_le : size ≤ capacity

namespace BoundedQueue

variable {α : Type}

/-- A queue filled with the given entries, the oldest first. -/
def filled (entries : List α) : BoundedQueue α where
  capacity := entries.length
  front := entries
  back := []
  size := entries.length
  size_eq := by simp
  size_le := Nat.le_refl _

/-- The entries, the oldest first. -/
def toList (q : BoundedQueue α) : List α :=
  q.front ++ q.back.reverse

/-- There is no entry. -/
def isEmpty (q : BoundedQueue α) : Bool :=
  q.size == 0

/-- Add an entry behind all others, if there is room. -/
def push? (q : BoundedQueue α) (entry : α) : Option (BoundedQueue α) :=
  if h : q.size < q.capacity then
    some
      { capacity := q.capacity
        front := q.front
        back := entry :: q.back
        size := q.size + 1
        size_eq := by
          have hsize := q.size_eq
          simp only [List.length_cons]
          omega
        size_le := h }
  else none

/-- Take the oldest entry. When the older entries are used up, the newer ones take their place. -/
def pop? (q : BoundedQueue α) : Option (α × BoundedQueue α) :=
  match hfront : q.front with
  | entry :: rest =>
      some (entry,
        { capacity := q.capacity
          front := rest
          back := q.back
          size := q.size - 1
          size_eq := by
            have hsize := q.size_eq
            rw [hfront, List.length_cons] at hsize
            omega
          size_le := by
            have hle := q.size_le
            omega })
  | [] =>
      match hback : q.back.reverse with
      | [] => none
      | entry :: rest =>
          some (entry,
            { capacity := q.capacity
              front := rest
              back := []
              size := q.size - 1
              size_eq := by
                have hsize := q.size_eq
                have hlength := congrArg List.length hback
                rw [List.length_reverse, List.length_cons] at hlength
                rw [hfront, List.length_nil] at hsize
                simp only [List.length_nil]
                omega
              size_le := by
                have hle := q.size_le
                omega })

@[simp] theorem toList_filled (entries : List α) : (filled entries).toList = entries := by
  simp [filled, toList]

/-- The stored size is the number of entries. -/
theorem length_toList (q : BoundedQueue α) : q.toList.length = q.size := by
  rw [toList, List.length_append, List.length_reverse, q.size_eq]

/-- Pushing appends to the entries and leaves the capacity as it is. -/
theorem toList_of_push? {q after : BoundedQueue α} {entry : α} (h : q.push? entry = some after) :
    after.toList = q.toList ++ [entry] ∧ after.capacity = q.capacity := by
  unfold push? at h
  split at h
  · cases h
    simp [toList]
  · cases h

/-- Pushing fails exactly when the queue is full. -/
theorem push?_eq_none_iff {q : BoundedQueue α} {entry : α} :
    q.push? entry = none ↔ q.toList.length = q.capacity := by
  have hle := q.size_le
  rw [length_toList]
  unfold push?
  split
  · simp
    omega
  · simp
    omega

/-- Popping takes the head of the entries and leaves the capacity as it is. -/
theorem toList_of_pop? {q after : BoundedQueue α} {entry : α} (h : q.pop? = some (entry, after)) :
    q.toList = entry :: after.toList ∧ after.capacity = q.capacity := by
  unfold pop? at h
  split at h
  · rename_i first rest hfront
    cases h
    simp [toList, hfront]
  · rename_i hfront
    split at h
    · cases h
    · rename_i first rest hback
      cases h
      simp [toList, hfront, hback]

/-- Popping fails exactly when there is no entry. -/
theorem pop?_eq_none_iff {q : BoundedQueue α} : q.pop? = none ↔ q.toList = [] := by
  unfold pop?
  split
  · rename_i hfront
    simp [toList, hfront]
  · rename_i hfront
    split
    · rename_i hback
      simpa [toList, hfront] using hback
    · rename_i hback
      simp [toList, hfront, hback]

end BoundedQueue

end SignalKernel
