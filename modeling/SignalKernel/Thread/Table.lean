import SignalKernel.Thread.Basic

/-!
# All threads of the system

The table holds the idle thread, which always exists, and the spawned threads in the order of their
creation. Threads are never removed. `find?` looks a thread up by its identity, `get` falls back to
the idle thread, and `modify` changes one thread in place. The main statement is `find?_modify`:
changing a thread changes what is found under its identity and nothing else.
-/

namespace SignalKernel

/-- The idle thread and the spawned ones, the oldest first. -/
structure ThreadTable where
  idle : Thread
  spawned : List Thread := []

namespace ThreadTable

/-- All threads, the idle one first. -/
def toList (table : ThreadTable) : List Thread :=
  table.idle :: table.spawned

/-- The thread with an identity. -/
def find? (table : ThreadTable) (id : ThreadId) : Option Thread :=
  table.toList.find? fun thread ↦ thread.id == id

/-- The thread with an identity, or else the idle thread. -/
def get (table : ThreadTable) (id : ThreadId) : Thread :=
  (table.find? id).getD table.idle

/-- Add a thread behind all others. -/
def add (table : ThreadTable) (thread : Thread) : ThreadTable :=
  { table with spawned := table.spawned ++ [thread] }

/-- Change the thread with an identity. -/
def modify (table : ThreadTable) (id : ThreadId) (change : Thread → Thread) : ThreadTable where
  idle := if table.idle.id = id then change table.idle else table.idle
  spawned := table.spawned.map fun thread ↦ if thread.id = id then change thread else thread

theorem toList_add (table : ThreadTable) (thread : Thread) :
    (table.add thread).toList = table.toList ++ [thread] :=
  rfl

/-- A new thread is found under its identity, unless an older one has the same. -/
theorem find?_add (table : ThreadTable) (thread : Thread) (id : ThreadId) :
    (table.add thread).find? id =
      (table.find? id).or (if thread.id = id then some thread else none) := by
  rw [find?, toList_add, List.find?_append, List.find?_singleton, find?]
  simp only [beq_iff_eq]

theorem toList_modify (table : ThreadTable) (id : ThreadId) (change : Thread → Thread) :
    (table.modify id change).toList =
      table.toList.map fun thread ↦ if thread.id = id then change thread else thread := by
  simp [toList, modify]

/-- A change that keeps identities changes what is found under one identity, and nothing else. -/
theorem find?_modify (table : ThreadTable) (id other : ThreadId) {change : Thread → Thread}
    (hid : ∀ thread, (change thread).id = thread.id) :
    (table.modify id change).find? other =
      (table.find? other).map fun thread ↦ if other = id then change thread else thread := by
  rw [find?, toList_modify, find?]
  induction table.toList with
  | nil => rfl
  | cons first rest ih =>
      have hkeep : (if first.id = id then change first else first).id = first.id := by
        split
        · exact hid first
        · rfl
      rw [List.map_cons, List.find?_cons, List.find?_cons, hkeep]
      by_cases hfirst : first.id = other
      · subst hfirst
        simp
      · have hne : (first.id == other) = false := beq_eq_false_iff_ne.2 hfirst
        simp only [hne]
        exact ih

/-- Changes that keep identities keep them in order. -/
theorem ids_modify (table : ThreadTable) (id : ThreadId) {change : Thread → Thread}
    (hid : ∀ thread, (change thread).id = thread.id) :
    (table.modify id change).toList.map Thread.id = table.toList.map Thread.id := by
  rw [toList_modify, List.map_map]
  apply List.map_congr_left
  intro thread _
  simp only [Function.comp_apply]
  split
  · exact hid thread
  · rfl

/-- The thread that is looked up is the same one before and after a change that keeps identities. -/
theorem id_get_modify (table : ThreadTable) (id other : ThreadId) {change : Thread → Thread}
    (hid : ∀ thread, (change thread).id = thread.id) :
    ((table.modify id change).get other).id = (table.get other).id := by
  unfold get
  rw [find?_modify table id other hid]
  cases table.find? other with
  | none =>
      show (if table.idle.id = id then change table.idle else table.idle).id = table.idle.id
      split
      · exact hid table.idle
      · rfl
  | some thread =>
      show (if other = id then change thread else thread).id = thread.id
      split
      · exact hid thread
      · rfl

/-- Two changes of the same thread are one. -/
theorem modify_modify (table : ThreadTable) (id : ThreadId) {first : Thread → Thread}
    (hid : ∀ thread, (first thread).id = thread.id) (second : Thread → Thread) :
    (table.modify id first).modify id second = table.modify id (second ∘ first) := by
  have hthread (thread : Thread) :
      (if (if thread.id = id then first thread else thread).id = id
        then second (if thread.id = id then first thread else thread)
        else if thread.id = id then first thread else thread) =
      if thread.id = id then second (first thread) else thread := by
    by_cases h : thread.id = id
    · rw [if_pos h, if_pos ((hid thread).trans h), if_pos h]
    · rw [if_neg h, if_neg h, if_neg h]
  simp only [modify, mk.injEq, List.map_map]
  exact ⟨hthread table.idle, List.map_congr_left fun thread _ ↦ hthread thread⟩

end ThreadTable

end SignalKernel
