import Mathlib.Data.Multiset.Bind
import SignalKernel.Proofs.Pending.SharedLists

/-!
# The arena stays intact

The queue reads and writes its arena by links, and counts in 16 bits. Its functions are total: they
pass over a link that is no slot's index, a free queue that has no room, a count that wraps. Here
are the same functions with each of these made a fault, `pushChecked`, `popChecked` and
`peekChecked`, which have no result when they meet one.

The main theorem, `arena_intact`, says that after any calls no such function meets a fault, so that
each has the result that the queue's own function has; that following the links of each list visits
exactly its slots; and that every slot of the arena is in one list, or free, once.
-/

namespace SignalKernel

namespace BoundedQueue

variable {α : Type}

/-- A queue without entries. -/
def ofCapacity (capacity : Nat) : BoundedQueue α where
  capacity
  front := []
  back := []
  size := 0
  size_eq := rfl
  size_le := Nat.zero_le capacity

/-- Entries that there is room for can all be pushed, one after the other. -/
theorem exists_foldlM_push? (entries : List α) (q : BoundedQueue α)
    (hroom : q.toList.length + entries.length ≤ q.capacity) :
    ∃ after, entries.foldlM push? q = some after ∧ after.toList = q.toList ++ entries ∧
      after.capacity = q.capacity := by
  induction entries generalizing q with
  | nil => exact ⟨q, rfl, (List.append_nil _).symm, rfl⟩
  | cons entry rest ih =>
      rw [List.length_cons] at hroom
      cases hpush : q.push? entry with
      | none =>
          have hfull := push?_eq_none_iff.1 hpush
          omega
      | some pushed =>
          obtain ⟨hlist, hcapacity⟩ := toList_of_push? hpush
          have hleft : pushed.toList.length + rest.length ≤ pushed.capacity := by
            rw [hlist, hcapacity, List.length_append, List.length_singleton]
            omega
          obtain ⟨after, hafter, hentries, hsame⟩ := ih pushed hleft
          refine ⟨after, ?_, ?_, hsame.trans hcapacity⟩
          · rw [List.foldlM_cons, hpush]
            exact hafter
          · rw [hentries, hlist, List.append_assoc]
            rfl

end BoundedQueue

namespace PendingQueue

/-! ## Checked access -/

/-- The slot that a link stands for. There is none for the link that ends a list, and none for a
link that points outside of the arena. -/
def read? (slots : Array Slot) (link : UInt16) : Option Slot :=
  if link = endOfList then none else slots[link.toNat]?

/-- Replace the slot that a link stands for. -/
def write? (slots : Array Slot) (link : UInt16) (slot : Slot) : Option (Array Slot) :=
  (read? slots link).map fun _ ↦ slots.setIfInBounds link.toNat slot

/-- Let the slot that a link stands for link to another one. -/
def relink? (slots : Array Slot) (link next : UInt16) : Option (Array Slot) := do
  let slot ← read? slots link
  write? slots link { slot with next }

/-- One more, unless 16 bits cannot tell it. -/
def countUp? (count : UInt16) : Option UInt16 :=
  if count.toNat + 1 < 2 ^ 16 then some (count + 1) else none

/-- One less, unless there is none. -/
def countDown? (count : UInt16) : Option UInt16 :=
  if count = 0 then none else some (count - 1)

/-- Replace the entry of a lane. A lane is always in bounds. -/
def setAt {lanes : Nat} (entries : Vector UInt16 lanes) (lane : Fin lanes) (entry : UInt16) :
    Vector UInt16 lanes :=
  entries.set lane entry lane.isLt

/-- Add an occurrence behind the records of its signal, with every access checked. -/
def pushChecked (q : PendingQueue) (o : Occurrence) :
    Option (Except SignalError Unit × PendingQueue) :=
  match Signal.lane? o.signal with
  | none => some (.error .invalidSignal, q)
  | some lane =>
      match q.free.pop? with
      | none => some (.error .queueFull, q)
      | some (index, free) => do
          let tail := q.tail lane
          let stored ← write? q.slots index ⟨o, endOfList⟩
          let slots ← if tail = endOfList then some stored else relink? stored tail index
          let count ← countUp? (q.counts.get lane)
          let after : PendingQueue :=
            { slots
              heads := if tail = endOfList then setAt q.heads lane index else q.heads
              tails := setAt q.tails lane index
              counts := setAt q.counts lane count
              free
              pending := q.pending ∪ .single o.signal }
          some (.ok (), after)

/-- Take the oldest record of a signal, with every access checked. -/
def popChecked (q : PendingQueue) (signal : Nat) : Option (Option Occurrence × PendingQueue) :=
  match Signal.lane? signal with
  | none => some (none, q)
  | some lane =>
      let head := q.head lane
      if head = endOfList then some (none, q)
      else do
        let slot ← read? q.slots head
        let count ← countDown? (q.counts.get lane)
        let slots ← relink? q.slots head endOfList
        let free ← q.free.push? head
        let after : PendingQueue :=
          { slots
            heads := setAt q.heads lane slot.next
            tails := if slot.next = endOfList then setAt q.tails lane endOfList else q.tails
            counts := setAt q.counts lane count
            free
            pending :=
              if slot.next = endOfList then q.pending \ .single (Signal.ofLane lane)
              else q.pending }
        some (some slot.occurrence, after)

/-- The oldest record of a signal, with every access checked. -/
def peekChecked (q : PendingQueue) (signal : Nat) : Option (Option Occurrence) :=
  match Signal.lane? signal with
  | none => some none
  | some lane =>
      let head := q.head lane
      if head = endOfList then some none
      else (read? q.slots head).map fun slot ↦ some slot.occurrence

section Access

variable {slots : Array Slot} {link : UInt16}

theorem read?_eq (hne : link ≠ endOfList) (hlt : link.toNat < slots.size) :
    read? slots link = some slots[link.toNat] := by
  rw [read?, if_neg hne, Array.getElem?_eq_getElem hlt]

theorem write?_eq (hne : link ≠ endOfList) (hlt : link.toNat < slots.size) (slot : Slot) :
    write? slots link slot = some (slots.setIfInBounds link.toNat slot) := by
  rw [write?, read?_eq hne hlt, Option.map_some]

theorem relink?_eq (hne : link ≠ endOfList) (hlt : link.toNat < slots.size) (next : UInt16) :
    relink? slots link next =
      some (slots.modify link.toNat fun slot ↦ { slot with next := next }) := by
  have hmodify : slots.modify link.toNat (fun slot ↦ { slot with next := next }) =
      slots.setIfInBounds link.toNat { slots[link.toNat] with next := next } := by
    apply Array.ext_getElem?
    intro index
    rw [Array.getElem?_modify, Array.getElem?_setIfInBounds]
    by_cases heq : link.toNat = index
    · subst heq
      rw [if_pos rfl, if_pos rfl, if_pos hlt, Array.getElem?_eq_getElem hlt, Option.map_some]
    · rw [if_neg heq, if_neg heq]
  rw [relink?, read?_eq hne hlt, hmodify]
  exact write?_eq hne hlt _

end Access

namespace Threaded

variable {q : PendingQueue} {chains : Fin 64 → List Cell} (h : Threaded q chains)
include h

theorem count_get (lane : Fin 64) : (q.counts.get lane).toNat = (chains lane).length :=
  h.count lane

/-- A free slot leaves room in every count. -/
theorem countUp?_eq {index : UInt16} {free : BoundedQueue UInt16}
    (hfree : q.free.pop? = some (index, free)) (lane : Fin 64) :
    countUp? (q.counts.get lane) = some (q.counts.get lane + 1) :=
  if_pos (by rw [h.count_get lane]; exact Nat.succ_lt_succ (h.length_lt hfree lane))

/-- No push meets a fault. -/
theorem pushChecked_eq (o : Occurrence) : q.pushChecked o = some (q.push o) := by
  unfold pushChecked push
  cases hlane : Signal.lane? o.signal with
  | none => rfl
  | some lane =>
      cases hfree : q.free.pop? with
      | none => rfl
      | some taken =>
          obtain ⟨index, free⟩ := taken
          have hindex : index.toNat < q.slots.size := by
            refine h.index_lt (Multiset.mem_add.2 (.inr ?_))
            rw [(BoundedQueue.toList_of_pop? hfree).1]
            exact List.mem_cons_self ..
          have hwrite := write?_eq (h.ne_endOfList hindex) hindex ⟨o, endOfList⟩
          have hcount := h.countUp?_eq hfree lane
          simp only [hwrite, hcount, Option.bind_eq_bind, Option.bind_some]
          have htail : ({ q with free } : PendingQueue).tail lane = q.tail lane := rfl
          by_cases hend : q.tail lane = endOfList
          · simp only [PendingQueue.append, htail, hend, setAt, if_true]
            rfl
          · have hlt : (q.tail lane).toNat <
                (q.slots.setIfInBounds index.toNat ⟨o, endOfList⟩).size := by
              rw [Array.size_setIfInBounds]
              exact (h.chain lane).index_lt (h.tail_mem hend)
            simp only [PendingQueue.append, htail, if_neg hend, relink?_eq hend hlt, setAt,
              Option.bind_some]
            rfl

/-- No pop meets a fault. -/
theorem popChecked_eq (signal : Nat) : q.popChecked signal = some (q.pop signal) := by
  unfold popChecked pop
  cases hlane : Signal.lane? signal with
  | none => rfl
  | some lane =>
      cases hcells : chains lane with
      | nil =>
          simp only [if_pos ((h.head_eq_iff lane).2 hcells)]
      | cons cell rest =>
          obtain ⟨hhead, hend, next, hslot, -⟩ := h.head_slot hcells
          have hlt : cell.index.toNat < q.slots.size := (Array.getElem?_eq_some_iff.1 hslot).1
          have hread : read? q.slots cell.index = some ⟨cell.occurrence, next⟩ := by
            rw [read?, if_neg hend, hslot]
          have hcount : countDown? (q.counts.get lane) = some (q.counts.get lane - 1) := by
            refine if_neg fun hzero ↦ ?_
            have hlength := h.count_get lane
            rw [hzero, hcells] at hlength
            exact absurd hlength (Nat.succ_ne_zero _).symm
          obtain ⟨free, hfree⟩ := h.exists_push? hcells
          simp only [hhead, if_neg hend, hread, hslot, hcount, relink?_eq hend hlt, hfree, setAt,
            Option.bind_eq_bind, Option.bind_some, PendingQueue.dropHead, Option.getD_some]
          rfl

/-- No look at the oldest record meets a fault. -/
theorem peekChecked_eq (signal : Nat) : q.peekChecked signal = some (q.peek? signal) := by
  unfold peekChecked peek?
  cases hlane : Signal.lane? signal with
  | none => rfl
  | some lane =>
      cases hcells : chains lane with
      | nil =>
          simp only [if_pos ((h.head_eq_iff lane).2 hcells)]
      | cons cell rest =>
          obtain ⟨hhead, hend, next, hslot, -⟩ := h.head_slot hcells
          simp only [hhead, read?, if_neg hend, hslot, Option.map_some]

end Threaded

/-! ## Walking along the lists -/

/-- Follow the links from one on, a number of times. Each link has to stand for a slot. The result
is the links that were followed, and the one behind them. -/
def follow (slots : Array Slot) : (steps : Nat) → (link : UInt16) → Option (List UInt16 × UInt16)
  | 0, link => some ([], link)
  | steps + 1, link => do
      let slot ← read? slots link
      let (visited, last) ← follow slots steps slot.next
      some (link :: visited, last)

/-- The slots of a list in order, as a walk from its head visits them. The walk takes one step for
each record that the list is said to have. -/
def linkedSlots (q : PendingQueue) (lane : Fin 64) : List UInt16 :=
  match follow q.slots (q.counts.get lane).toNat (q.head lane) with
  | some (visited, _) => visited
  | none => []

/-- A walk along a chain visits its cells, and then is at the end. -/
theorem Chain.follow_eq {slots : Array Slot} {link : UInt16} {cells : List Cell}
    (h : Chain slots link cells) (hsize : slots.size ≤ maxCapacity) :
    follow slots cells.length link = some (indices cells, endOfList) := by
  induction cells generalizing link with
  | nil => exact congrArg (fun last ↦ some ([], last)) h
  | cons cell rest ih =>
      have hne := h.link_ne hsize
      obtain ⟨rfl, next, hslot, hrest⟩ := h
      have hread : read? slots cell.index = some ⟨cell.occurrence, next⟩ := by
        rw [read?, if_neg hne, hslot]
      rw [List.length_cons, follow, hread]
      simp only [Option.bind_eq_bind, Option.bind_some, ih hrest]
      rfl

/-- The slot of a cell holds the cell's record. -/
theorem Chain.exists_slot {slots : Array Slot} {link : UInt16} {cells : List Cell}
    (h : Chain slots link cells) {cell : Cell} (hcell : cell ∈ cells) :
    ∃ next, slots[cell.index.toNat]? = some ⟨cell.occurrence, next⟩ := by
  induction cells generalizing link with
  | nil => cases hcell
  | cons first rest ih =>
      obtain ⟨rfl, next, hslot, hrest⟩ := h
      cases hcell with
      | head => exact ⟨next, hslot⟩
      | tail _ hcell => exact ih hrest hcell

namespace Threaded

variable {q : PendingQueue} {chains : Fin 64 → List Cell} (h : Threaded q chains)
include h

theorem follow_eq (lane : Fin 64) : follow q.slots (q.counts.get lane).toNat (q.head lane) =
    some (indices (chains lane), endOfList) := by
  rw [h.count_get lane]
  exact (h.chain lane).follow_eq h.capacity_le

theorem linkedSlots_eq (lane : Fin 64) : q.linkedSlots lane = indices (chains lane) := by
  rw [linkedSlots, h.follow_eq lane]

/-- The slots of all lists and the free ones are all slots, in some order. -/
theorem slots_perm : (((List.finRange 64).flatMap q.linkedSlots ++ q.free.toList).map
    UInt16.toNat).Perm (List.range q.capacity) := by
  have hlinked : linked chains = ((List.finRange 64).flatMap q.linkedSlots : List UInt16) := by
    rw [← Multiset.coe_bind, linked, Fin.univ_def]
    simp only [h.linkedSlots_eq]
    rfl
  have hslots := h.slots
  rw [hlinked, Multiset.coe_add] at hslots
  have hnat :
      (List.range q.capacity).map (UInt16.toNat ∘ Nat.toUInt16) = List.range q.capacity := by
    refine (List.map_congr_left fun index hindex ↦ ?_).trans (List.map_id _)
    have hle := h.capacity_le
    rw [List.mem_range] at hindex
    unfold maxCapacity at hle
    rw [Function.comp_apply, Nat.toUInt16_eq, UInt16.toNat_ofNat', Nat.mod_eq_of_lt (by omega)]
    rfl
  rw [← hnat, ← List.map_map]
  exact (Multiset.coe_eq_coe.1 hslots).map UInt16.toNat

/-- A slot in a list holds a record of the list's signal. -/
theorem read?_linkedSlots {lane : Fin 64} {index : UInt16} (hindex : index ∈ q.linkedSlots lane) :
    ∃ slot, read? q.slots index = some slot ∧ slot.occurrence.signal = Signal.ofLane lane := by
  rw [h.linkedSlots_eq] at hindex
  have hne := h.ne_endOfList ((h.chain lane).index_lt hindex)
  obtain ⟨cell, hcell, rfl⟩ := List.mem_map.1 hindex
  obtain ⟨next, hslot⟩ := (h.chain lane).exists_slot hcell
  refine ⟨⟨cell.occurrence, next⟩, ?_, h.signal lane cell hcell⟩
  rw [read?, if_neg hne, hslot]

theorem chain_eq_nil_iff (lane : Fin 64) : chains lane = [] ↔ q.counts.get lane = 0 := by
  rw [← List.length_eq_zero_iff, ← h.count_get lane, ← UInt16.toNat_inj]
  rfl

end Threaded

/-! ## One signal in all slots -/

section OneSignal

variable {q : PendingQueue} {o : Occurrence}

/-- A push that finds a free slot uses it for one more record of the signal. -/
theorem count_push (hq : q.Sound) (hvalid : Signal.isValid o.signal) (hroom : 0 < q.free.size) :
    (q.push o).1 = .ok () ∧ (q.push o).2.count o.signal = q.count o.signal + 1 ∧
      (q.push o).2.free.size + 1 = q.free.size := by
  have hfull : q.isFull = false := beq_eq_false_iff_ne.2 (Nat.pos_iff_ne_zero.1 hroom)
  have hok : (q.push o).1 = .ok () := by
    rw [push_outcome, hvalid, hfull]
    rfl
  have hafter := hq.push o
  refine ⟨hok, ?_, ?_⟩
  · rw [count_eq hafter, count_eq hq, records_push hq hok, if_pos rfl, List.length_append]
    rfl
  · obtain ⟨lane, hlane⟩ := Option.isSome_iff_exists.1 (Signal.isValid_iff_lane?.1 hvalid)
    cases hfree : q.free.pop? with
    | none => exact absurd (isFull_iff.2 hfree) (Bool.eq_false_iff.1 hfull)
    | some taken =>
        obtain ⟨index, free⟩ := taken
        have hpush : (q.push o).2.free = free := by
          unfold push
          simp only [hlane, hfree]
          rfl
        rw [hpush, ← BoundedQueue.length_toList, ← BoundedQueue.length_toList,
          (BoundedQueue.toList_of_pop? hfree).1, List.length_cons]

/-- As long as slots are free, each push uses one. -/
theorem count_pushMany (hq : q.Sound) (hvalid : Signal.isValid o.signal) (times pushed : Nat)
    (hroom : times ≤ q.free.size) :
    (q.pushMany o times pushed).2.2.count o.signal = q.count o.signal + times ∧
      (q.pushMany o times pushed).2.2.free.size + times = q.free.size := by
  induction times generalizing q o pushed with
  | zero => exact ⟨rfl, rfl⟩
  | succ times ih =>
      obtain ⟨hok, hcount, hsize⟩ := count_push hq hvalid (Nat.zero_lt_of_lt hroom)
      have hsound := hq.push o
      rw [PendingQueue.pushMany]
      cases hpush : q.push o with
      | mk outcome after =>
          rw [hpush] at hok
          cases hok
          have hafter : after.Sound := by rwa [hpush] at hsound
          have hone : after.count o.signal = q.count o.signal + 1 := by rwa [hpush] at hcount
          have hleft : after.free.size + 1 = q.free.size := by rwa [hpush] at hsize
          obtain ⟨hcounts, hsizes⟩ := ih (o := { o with value := o.value + 1 }) hafter hvalid
            (pushed + 1) (by omega)
          refine ⟨hcounts.trans ?_, ?_⟩
          · rw [hone, Nat.add_right_comm]
            rfl
          · rw [← hleft, ← hsizes]
            rfl

end OneSignal

/-! ## The arena after any calls -/

/-- The queue's lists are in order, and nothing that may be done next meets a fault. -/
structure Intact (q : PendingQueue) : Prop where
  /-- Following a list visits as many slots as the list has records, and then is at the end. -/
  walk : ∀ lane, follow q.slots (q.counts.get lane).toNat (q.head lane) =
    some (q.linkedSlots lane, endOfList)
  /-- The slot that is visited last is the list's tail. -/
  tail : ∀ lane, q.tail lane = (q.linkedSlots lane).getLast?.getD endOfList
  head_iff : ∀ lane, q.head lane = endOfList ↔ q.counts.get lane = 0
  tail_iff : ∀ lane, q.tail lane = endOfList ↔ q.counts.get lane = 0
  /-- Every slot of the arena is in one list, or free, once. -/
  slots : (((List.finRange 64).flatMap q.linkedSlots ++ q.free.toList).map UInt16.toNat).Perm
    (List.range q.capacity)
  /-- A slot in a list holds a record of the list's signal. -/
  signal : ∀ lane, ∀ index ∈ q.linkedSlots lane,
    ∃ slot, read? q.slots index = some slot ∧ slot.occurrence.signal = Signal.ofLane lane
  push : ∀ o, q.pushChecked o = some (q.push o)
  pop : ∀ signal, q.popChecked signal = some (q.pop signal)
  peek : ∀ signal, q.peekChecked signal = some (q.peek? signal)

theorem Sound.intact {q : PendingQueue} (hq : q.Sound) : q.Intact := by
  obtain ⟨chains, h⟩ := hq
  constructor
  case walk =>
    intro lane
    rw [h.linkedSlots_eq]
    exact h.follow_eq lane
  case tail =>
    intro lane
    rw [h.tail lane, h.linkedSlots_eq, indices, List.getLast?_map]
    rfl
  case head_iff =>
    intro lane
    rw [← h.chain_eq_nil_iff]
    exact h.head_eq_iff lane
  case tail_iff =>
    intro lane
    rw [← h.chain_eq_nil_iff]
    exact h.tail_eq_iff lane
  case slots => exact h.slots_perm
  case signal => exact fun lane index ↦ h.read?_linkedSlots
  case push => exact h.pushChecked_eq
  case pop => exact h.popChecked_eq
  case peek => exact h.peekChecked_eq

/-- What can be said of new queues with the requested capacity. -/
structure Filled (requested : Nat) : Prop where
  /-- There is at least one slot, and at most as many as there are links besides the one that ends a
  list. -/
  capacity : (ofCapacity requested).capacity = max 1 (min requested 65535)
  /-- The free slots of a new queue can be pushed in order onto a queue that has room for just as
  many; no push fails. -/
  free : ∃ free, ((List.range (ofCapacity requested).capacity).map Nat.toUInt16).foldlM
      BoundedQueue.push? (.ofCapacity (ofCapacity requested).capacity) = some free ∧
    free.toList = (ofCapacity requested).free.toList ∧
    free.capacity = (ofCapacity requested).free.capacity
  /-- All slots can be used by one signal, whose count then is the capacity. -/
  oneSignal : ∀ o, Signal.isValid o.signal →
    let full := (ofCapacity requested).after [.pushMany o (ofCapacity requested).capacity]
    full.count o.signal = (ofCapacity requested).capacity ∧ full.isFull

theorem filled (requested : Nat) : Filled requested := by
  have hcapacity : (ofCapacity requested).capacity = clampCapacity requested :=
    capacity_ofCapacity requested
  constructor
  case capacity => exact hcapacity
  case free =>
    rw [hcapacity]
    have hroom : (.ofCapacity (clampCapacity requested) : BoundedQueue UInt16).toList.length +
        ((List.range (clampCapacity requested)).map Nat.toUInt16).length ≤
          clampCapacity requested := by
      simp [BoundedQueue.ofCapacity, BoundedQueue.toList]
    obtain ⟨free, hfold, hlist, hsame⟩ := BoundedQueue.exists_foldlM_push? _ _ hroom
    refine ⟨free, hfold, hlist.trans (BoundedQueue.toList_filled _).symm, hsame.trans ?_⟩
    simp [BoundedQueue.ofCapacity, ofCapacity, BoundedQueue.filled]
  case oneSignal =>
    intro o hvalid full
    have hnew := Sound.ofCapacity requested
    have hroom : (ofCapacity requested).free.size = (ofCapacity requested).capacity := by
      rw [hcapacity]
      simp [ofCapacity, BoundedQueue.filled]
    obtain ⟨hcount, hsize⟩ := count_pushMany hnew hvalid _ 0 hroom.ge
    constructor
    · refine hcount.trans ?_
      rw [count_eq hnew, records_ofCapacity]
      exact Nat.zero_add _
    · have hnone : full.free.size = 0 := by
        rw [hroom] at hsize
        exact Nat.add_right_cancel (hsize.trans (Nat.zero_add _).symm)
      exact beq_iff_eq.2 hnone

/-- After any calls on a queue of any requested capacity the arena is intact, and no push, no pop
and no look at a record meets a fault. -/
theorem arena_intact (requested : Nat) (calls : List Call) :
    ((ofCapacity requested).after calls).Intact ∧ Filled requested :=
  ⟨((Sound.ofCapacity requested).after calls).intact, filled requested⟩

end PendingQueue

end SignalKernel
