import Mathlib.Algebra.BigOperators.Group.Finset.Piecewise
import Mathlib.Algebra.Order.Group.Multiset
import Mathlib.Data.Fintype.Basic
import SignalKernel.Pending.Queue

/-!
# The lists that are threaded through an arena

`Chain slots link cells` says that following the links from `link` visits exactly `cells` and then
ends. `Threaded q chains` says that the 64 lists of a queue are the given ones, that the tails, the
counts and the pending set agree with them, and that the lists and the free slots together hold each
index of the arena exactly once. The two edits of the queue are `Threaded.append` and
`Threaded.dropHead`: linking a free slot behind a list and unlinking the head of one.
-/

namespace SignalKernel.PendingQueue

/-- A record in a list, with the index of the slot it lies in. -/
structure Cell where
  index : UInt16
  occurrence : Occurrence

/-- Following the links from `link` visits the cells in order and then ends. -/
def Chain (slots : Array Slot) : UInt16 → List Cell → Prop
  | link, [] => link = endOfList
  | link, cell :: rest =>
      link = cell.index ∧
        ∃ next, slots[link.toNat]? = some ⟨cell.occurrence, next⟩ ∧ Chain slots next rest

/-- The link to a list's last cell, as `tails` holds it. -/
def lastLink (cells : List Cell) : UInt16 :=
  (cells.getLast?.map Cell.index).getD endOfList

/-- The indices of a list of cells. -/
def indices (cells : List Cell) : List UInt16 :=
  cells.map Cell.index

/-- The indices of all lists. -/
@[irreducible]
def linked {ι : Type} [Fintype ι] (chains : ι → List Cell) : Multiset UInt16 :=
  ∑ lane, (indices (chains lane) : Multiset UInt16)

/-- The queue's lists are the given ones, and everything else in the queue agrees with them. -/
structure Threaded (q : PendingQueue) (chains : Fin 64 → List Cell) : Prop where
  capacity_le : q.capacity ≤ maxCapacity
  free_capacity : q.free.capacity = q.capacity
  chain : ∀ lane, Chain q.slots (q.head lane) (chains lane)
  tail : ∀ lane, q.tail lane = lastLink (chains lane)
  count : ∀ lane, q.counts[lane].toNat = (chains lane).length
  pending : ∀ lane, Signal.ofLane lane ∈ q.pending ↔ chains lane ≠ []
  signal : ∀ lane, ∀ cell ∈ chains lane, cell.occurrence.signal = Signal.ofLane lane
  /-- Each index lies in one list, once, or is free, once. -/
  slots : linked chains + q.free.toList = (Multiset.range q.capacity).map Nat.toUInt16

/-! ## Chains -/

section Chain

variable {slots after : Array Slot} {link : UInt16} {cells : List Cell}

/-- A chain reads the slots of its own cells only. -/
theorem Chain.congr (h : Chain slots link cells)
    (hsame : ∀ index ∈ indices cells, after[index.toNat]? = slots[index.toNat]?) :
    Chain after link cells := by
  induction cells generalizing link with
  | nil => exact h
  | cons cell rest ih =>
      obtain ⟨rfl, next, hslot, hrest⟩ := h
      refine ⟨rfl, next, ?_, ?_⟩
      · rw [hsame _ (List.mem_cons_self ..), hslot]
      · exact ih hrest fun index hindex ↦ hsame index (List.mem_cons_of_mem _ hindex)

/-- Every index of a chain is the index of a slot. -/
theorem Chain.index_lt (h : Chain slots link cells) {index : UInt16}
    (hindex : index ∈ indices cells) : index.toNat < slots.size := by
  induction cells generalizing link with
  | nil => cases hindex
  | cons cell rest ih =>
      obtain ⟨rfl, next, hslot, hrest⟩ := h
      cases hindex with
      | head => exact (Array.getElem?_eq_some_iff.1 hslot).1
      | tail _ hindex => exact ih hrest hindex

/-- Linking a new cell behind the last one makes the chain longer by that cell. The other cells keep
their slots. -/
theorem Chain.snoc {last cell : Cell} (h : Chain slots link (cells ++ [last]))
    (hsame : ∀ index ∈ indices cells, after[index.toNat]? = slots[index.toNat]?)
    (hlast : ∀ next, slots[last.index.toNat]? = some ⟨last.occurrence, next⟩ →
      after[last.index.toNat]? = some ⟨last.occurrence, cell.index⟩)
    (hcell : after[cell.index.toNat]? = some ⟨cell.occurrence, endOfList⟩) :
    Chain after link (cells ++ [last] ++ [cell]) := by
  induction cells generalizing link with
  | nil =>
      obtain ⟨rfl, next, hslot, -⟩ := h
      exact ⟨rfl, cell.index, hlast next hslot, rfl, endOfList, hcell, rfl⟩
  | cons first rest ih =>
      obtain ⟨rfl, next, hslot, hrest⟩ := h
      refine ⟨rfl, next, ?_, ?_⟩
      · rw [hsame _ (List.mem_cons_self ..), hslot]
      · exact ih hrest fun index hindex ↦ hsame index (List.mem_cons_of_mem _ hindex)

/-- A chain that is not empty starts at a slot, so its link is not the one that ends a list. -/
theorem Chain.link_ne {cell : Cell} {rest : List Cell} (h : Chain slots link (cell :: rest))
    (hsize : slots.size ≤ maxCapacity) : link ≠ endOfList := by
  have hlt : link.toNat < slots.size := by
    rw [h.1]
    exact h.index_lt (List.mem_cons_self ..)
  rintro rfl
  exact absurd (Nat.lt_of_lt_of_le hlt hsize) (by decide)

/-- A chain is empty exactly if its link ends a list. -/
theorem Chain.eq_nil_iff (h : Chain slots link cells) (hsize : slots.size ≤ maxCapacity) :
    cells = [] ↔ link = endOfList := by
  cases cells with
  | nil => exact ⟨fun _ ↦ h, fun _ ↦ rfl⟩
  | cons cell rest => exact ⟨fun hnil ↦ absurd hnil (List.cons_ne_nil _ _), fun hlink ↦
      absurd hlink (h.link_ne hsize)⟩

end Chain

theorem lastLink_append_singleton (cells : List Cell) (cell : Cell) :
    lastLink (cells ++ [cell]) = cell.index := by
  simp [lastLink]

/-! ## The indices of all lists -/

section Linked

variable {ι : Type} [Fintype ι] [DecidableEq ι] {chains : ι → List Cell} {lane : ι}

/-- Replacing one list takes its indices out and brings the new ones in. -/
theorem linked_update (chains : ι → List Cell) (lane : ι) (cells : List Cell) :
    linked (Function.update chains lane cells) + ↑(indices (chains lane)) =
      linked chains + ↑(indices cells) := by
  have hupdate :
      (fun other ↦ (indices (Function.update chains lane cells other) : Multiset UInt16)) =
        Function.update (fun other ↦ (indices (chains other) : Multiset UInt16)) lane
          ↑(indices cells) := by
    funext other
    by_cases hother : other = lane
    · subst hother
      rw [Function.update_self, Function.update_self]
    · rw [Function.update_of_ne hother, Function.update_of_ne hother]
  unfold linked
  rw [hupdate, Finset.sum_update_of_mem (Finset.mem_univ lane), Finset.sdiff_singleton_eq_erase,
    ← Finset.add_sum_erase Finset.univ _ (Finset.mem_univ lane)]
  ac_rfl

omit [DecidableEq ι] in
theorem mem_linked {index : UInt16} :
    index ∈ linked chains ↔ ∃ lane, index ∈ indices (chains lane) := by
  simp [linked, Multiset.mem_sum]

/-- If no index occurs twice, two lists have no index in common. -/
theorem lane_eq_of_mem (hnodup : (linked chains).Nodup) {other : ι} {index : UInt16}
    (hindex : index ∈ indices (chains lane)) (hother : index ∈ indices (chains other)) :
    lane = other := by
  by_contra hne
  have hsplit := Finset.add_sum_erase Finset.univ
    (fun lane ↦ (indices (chains lane) : Multiset UInt16)) (Finset.mem_univ lane)
  have hdisjoint : Disjoint (indices (chains lane) : Multiset UInt16)
      (∑ lane ∈ Finset.univ.erase lane, (indices (chains lane) : Multiset UInt16)) := by
    rw [linked, ← hsplit] at hnodup
    exact (Multiset.nodup_add.1 hnodup).2.2
  refine Multiset.disjoint_left.1 hdisjoint (Multiset.mem_coe.2 hindex) ?_
  exact Multiset.mem_sum.2 ⟨other, Finset.mem_erase.2 ⟨Ne.symm hne, Finset.mem_univ _⟩, hother⟩

theorem nodup_indices (hnodup : (linked chains).Nodup) (lane : ι) :
    (indices (chains lane)).Nodup := by
  rw [linked, ← Finset.add_sum_erase Finset.univ _ (Finset.mem_univ lane)] at hnodup
  exact Multiset.coe_nodup.1 (Multiset.nodup_add.1 hnodup).1

omit [DecidableEq ι] in
theorem card_linked (chains : ι → List Cell) :
    Multiset.card (linked chains) = ∑ lane, (chains lane).length := by
  unfold linked
  rw [Multiset.card_sum]
  simp [indices]

end Linked

/-! ## What the invariant says about slots -/

namespace Threaded

variable {q : PendingQueue} {chains : Fin 64 → List Cell} (h : Threaded q chains)
include h

theorem nodup_slots : (linked chains + q.free.toList).Nodup := by
  rw [h.slots]
  refine Multiset.Nodup.map_on ?_ (Multiset.nodup_range _)
  intro first hfirst second hsecond heq
  have hcapacity := h.capacity_le
  have hvalue := congrArg UInt16.toNat heq
  rw [Multiset.mem_range] at hfirst hsecond
  unfold maxCapacity at hcapacity
  rw [Nat.toUInt16_eq, Nat.toUInt16_eq, UInt16.toNat_ofNat', UInt16.toNat_ofNat'] at hvalue
  omega

/-- Every index that is linked or free is the index of a slot. -/
theorem index_lt {index : UInt16} (hindex : index ∈ linked chains + q.free.toList) :
    index.toNat < q.capacity := by
  rw [h.slots, Multiset.mem_map] at hindex
  obtain ⟨value, hvalue, rfl⟩ := hindex
  rw [Multiset.mem_range] at hvalue
  rw [Nat.toUInt16_eq, UInt16.toNat_ofNat']
  exact Nat.lt_of_le_of_lt (Nat.mod_le _ _) hvalue

/-- The link that ends a list is no index. -/
theorem ne_endOfList {index : UInt16} (hlt : index.toNat < q.capacity) : index ≠ endOfList := by
  rintro rfl
  exact absurd (Nat.lt_of_lt_of_le hlt h.capacity_le) (by decide)

/-- A free slot is in no list. -/
theorem not_mem_of_free {index : UInt16} (hindex : index ∈ q.free.toList) (lane : Fin 64) :
    index ∉ indices (chains lane) := by
  intro hlinked
  have hdisjoint := (Multiset.nodup_add.1 h.nodup_slots).2.2
  exact Multiset.disjoint_left.1 hdisjoint (mem_linked.2 ⟨lane, hlinked⟩)
    (Multiset.mem_coe.2 hindex)

/-- The records and the free slots together are as many as the queue has slots. -/
theorem sum_length : (∑ lane, (chains lane).length) + q.free.size = q.capacity := by
  have hcard := congrArg Multiset.card h.slots
  rw [Multiset.card_add, Multiset.card_map, Multiset.card_range, Multiset.coe_card,
    BoundedQueue.length_toList, card_linked] at hcard
  exact hcard

/-- The records of a list and the free slots together are no more than the queue has slots. -/
theorem length_add_free_le (lane : Fin 64) :
    (chains lane).length + q.free.size ≤ q.capacity := by
  rw [← h.sum_length, ← Finset.add_sum_erase Finset.univ _ (Finset.mem_univ lane)]
  omega

/-- A list has no more records than the queue has slots. -/
theorem length_le (lane : Fin 64) : (chains lane).length ≤ q.capacity :=
  Nat.le_trans (Nat.le_add_right _ _) (h.length_add_free_le lane)

/-- While a slot is free, no list has the highest number of records, so that no count can wrap. -/
theorem length_lt {index : UInt16} {free : BoundedQueue UInt16}
    (hfree : q.free.pop? = some (index, free)) (lane : Fin 64) :
    (chains lane).length < maxCapacity := by
  have hsum := h.length_add_free_le lane
  have hle := h.capacity_le
  have hsize : 0 < q.free.size := by
    rw [← BoundedQueue.length_toList, (BoundedQueue.toList_of_pop? hfree).1]
    exact Nat.succ_pos _
  omega

/-- The slot of a record is not free, so there is room for it among the free ones. -/
theorem exists_push? {lane : Fin 64} {cell : Cell} {rest : List Cell}
    (hcells : chains lane = cell :: rest) : ∃ free, q.free.push? cell.index = some free := by
  cases hpush : q.free.push? cell.index with
  | some free => exact ⟨free, rfl⟩
  | none =>
      have hfull := BoundedQueue.push?_eq_none_iff.1 hpush
      have hsum := h.length_add_free_le lane
      rw [hcells, List.length_cons] at hsum
      rw [BoundedQueue.length_toList, h.free_capacity] at hfull
      omega

end Threaded

/-! ## Linking a record -/

section Append

variable {q : PendingQueue} {lane : Fin 64} {index : UInt16} {o : Occurrence}

/-- Slots other than the new one and the list's old tail stay as they are. -/
theorem slots_append_of_ne {other : UInt16} (hindex : other ≠ index) (htail : other ≠ q.tail lane) :
    (q.append lane index o).slots[other.toNat]? = q.slots[other.toNat]? := by
  have hne : index.toNat ≠ other.toNat := fun h ↦ hindex (UInt16.toNat_inj.1 h).symm
  have hne' : (q.tail lane).toNat ≠ other.toNat := fun h ↦ htail (UInt16.toNat_inj.1 h).symm
  unfold append
  simp only
  split
  · rw [Array.getElem?_setIfInBounds_ne hne]
  · rw [Array.getElem?_modify, if_neg hne', Array.getElem?_setIfInBounds_ne hne]

/-- The new slot holds the record and ends its list. -/
theorem slots_append_self (hlt : index.toNat < q.capacity) (htail : q.tail lane ≠ index) :
    (q.append lane index o).slots[index.toNat]? = some ⟨o, endOfList⟩ := by
  have hne : (q.tail lane).toNat ≠ index.toNat := fun h ↦ htail (UInt16.toNat_inj.1 h)
  unfold append
  simp only
  split
  · exact Array.getElem?_setIfInBounds_self_of_lt hlt
  · rw [Array.getElem?_modify, if_neg hne]
    exact Array.getElem?_setIfInBounds_self_of_lt hlt

/-- The old tail keeps its record and links to the new slot. -/
theorem slots_append_tail (hend : q.tail lane ≠ endOfList) (htail : q.tail lane ≠ index)
    {record : Occurrence} {next : UInt16}
    (hslot : q.slots[(q.tail lane).toNat]? = some ⟨record, next⟩) :
    (q.append lane index o).slots[(q.tail lane).toNat]? = some ⟨record, index⟩ := by
  have hne : index.toNat ≠ (q.tail lane).toNat := fun h ↦ htail (UInt16.toNat_inj.1 h).symm
  unfold append
  simp only
  rw [if_neg hend, Array.getElem?_modify, if_pos rfl, Array.getElem?_setIfInBounds_ne hne, hslot]
  rfl

/-- The new slot is the head of a list that was empty; otherwise the head stays. -/
theorem head_append_self : (q.append lane index o).head lane =
    if q.tail lane = endOfList then index else q.head lane := by
  unfold head append
  simp only
  split <;> simp

theorem head_append_of_ne {other : Fin 64} (hother : other ≠ lane) :
    (q.append lane index o).head other = q.head other := by
  have hne : lane.val ≠ other.val := fun h ↦ hother (Fin.ext h).symm
  unfold head append
  simp only
  split
  · simp [hne]
  · rfl

@[simp] theorem tail_append_self : (q.append lane index o).tail lane = index := by
  simp [tail, append]

theorem tail_append_of_ne {other : Fin 64} (hother : other ≠ lane) :
    (q.append lane index o).tail other = q.tail other := by
  have hne : lane.val ≠ other.val := fun h ↦ hother (Fin.ext h).symm
  simp [tail, append, hne]

end Append

namespace Threaded

variable {q : PendingQueue} {chains : Fin 64 → List Cell}

/-- The link to the last cell of a list is the index of a cell of that list. -/
theorem tail_mem (h : Threaded q chains) {lane : Fin 64} (hend : q.tail lane ≠ endOfList) :
    q.tail lane ∈ indices (chains lane) := by
  rw [h.tail lane] at hend ⊢
  cases hlast : (chains lane).getLast? with
  | none => simp [lastLink, hlast] at hend
  | some cell =>
      have hindex : lastLink (chains lane) = cell.index := by simp [lastLink, hlast]
      rw [hindex]
      exact List.mem_map_of_mem (List.mem_of_getLast? hlast)

/-- The head of a list, and likewise its tail, ends the list exactly if the list is empty. -/
theorem head_eq_iff (h : Threaded q chains) (lane : Fin 64) :
    q.head lane = endOfList ↔ chains lane = [] :=
  ((h.chain lane).eq_nil_iff h.capacity_le).symm

theorem tail_eq_iff (h : Threaded q chains) (lane : Fin 64) :
    q.tail lane = endOfList ↔ chains lane = [] := by
  constructor
  · intro hend
    by_contra hne
    obtain ⟨cells, cell, hcells⟩ := List.eq_nil_or_concat (chains lane) |>.resolve_left hne
    have hmem : cell.index ∈ indices (chains lane) := by simp [indices, hcells]
    rw [h.tail lane, hcells, List.concat_eq_append, lastLink_append_singleton] at hend
    exact h.ne_endOfList ((h.chain lane).index_lt hmem) hend
  · intro hnil
    rw [h.tail lane, hnil]
    rfl

/-- The edited list is a chain with one more cell. -/
theorem chain_append_self (h : Threaded q chains) {lane : Fin 64} {index : UInt16} {o : Occurrence}
    (hlt : index.toNat < q.capacity) (htail : q.tail lane ≠ index)
    (hnew : index ∉ indices (chains lane)) :
    Chain (q.append lane index o).slots ((q.append lane index o).head lane)
      (chains lane ++ [⟨index, o⟩]) := by
  have hchain := h.chain lane
  have hnodup := nodup_indices (Multiset.nodup_add.1 h.nodup_slots).1 lane
  have hself := slots_append_self (o := o) hlt htail
  rw [head_append_self]
  rcases List.eq_nil_or_concat (chains lane) with hnil | ⟨cells, last, hcells⟩
  · rw [if_pos ((h.tail_eq_iff lane).2 hnil), hnil]
    exact ⟨rfl, endOfList, hself, rfl⟩
  · rw [List.concat_eq_append] at hcells
    have hend : q.tail lane ≠ endOfList := by
      rw [Ne, h.tail_eq_iff, hcells]
      simp
    have hlast : q.tail lane = last.index := by
      rw [h.tail lane, hcells, lastLink_append_singleton]
    rw [if_neg hend, hcells]
    rw [hcells] at hchain hnew hnodup
    simp only [indices, List.map_append, List.map_cons, List.map_nil] at hnodup hnew
    refine hchain.snoc ?_ ?_ hself
    · intro other hother
      refine slots_append_of_ne ?_ ?_
      · rintro rfl
        exact hnew (List.mem_append_left _ hother)
      · rintro rfl
        rw [hlast] at hother
        exact List.disjoint_of_nodup_append hnodup hother (List.mem_singleton_self _)
    · intro next hslot
      rw [← hlast] at hslot ⊢
      exact slots_append_tail hend htail hslot

/-- The other lists are the same chains as before. -/
theorem chain_append_of_ne (h : Threaded q chains) {lane other : Fin 64} {index : UInt16}
    {o : Occurrence} (hother : other ≠ lane) (hnew : index ∉ indices (chains other)) :
    Chain (q.append lane index o).slots ((q.append lane index o).head other) (chains other) := by
  have hnodup := (Multiset.nodup_add.1 h.nodup_slots).1
  rw [head_append_of_ne hother]
  refine (h.chain other).congr ?_
  intro link hlink
  refine slots_append_of_ne ?_ ?_
  · rintro rfl
    exact hnew hlink
  · rintro rfl
    by_cases hend : q.tail lane = endOfList
    · exact h.ne_endOfList ((h.chain other).index_lt hlink) hend
    · exact hother (lane_eq_of_mem hnodup hlink (h.tail_mem hend))

/-- Linking the first free slot behind a list makes that list longer by one record and leaves the
other lists alone. -/
theorem append (h : Threaded q chains) {lane : Fin 64} {index : UInt16} {o : Occurrence}
    {free : BoundedQueue UInt16} (hfree : q.free.pop? = some (index, free))
    (ho : o.signal = Signal.ofLane lane) :
    Threaded (({ q with free } : PendingQueue).append lane index o)
      (Function.update chains lane (chains lane ++ [⟨index, o⟩])) := by
  obtain ⟨hlist, hcapacity⟩ := BoundedQueue.toList_of_pop? hfree
  have hindex : index ∈ q.free.toList := by
    rw [hlist]
    exact List.mem_cons_self ..
  have hunlinked := h.not_mem_of_free hindex
  have hlt : index.toNat < q.capacity := h.index_lt (Multiset.mem_add.2 (.inr hindex))
  have htail : q.tail lane ≠ index := by
    intro heq
    by_cases hend : q.tail lane = endOfList
    · exact h.ne_endOfList hlt (heq.symm.trans hend)
    · exact hunlinked lane (heq ▸ h.tail_mem hend)
  constructor
  case capacity_le => exact (capacity_append _ _ _ _).trans_le h.capacity_le
  case free_capacity =>
    rw [capacity_append]
    exact hcapacity.trans h.free_capacity
  case chain =>
    intro other
    by_cases hother : other = lane
    · subst hother
      rw [Function.update_self]
      exact h.chain_append_self hlt htail (hunlinked other)
    · rw [Function.update_of_ne hother]
      exact h.chain_append_of_ne hother (hunlinked other)
  case tail =>
    intro other
    by_cases hother : other = lane
    · subst hother
      rw [Function.update_self, lastLink_append_singleton, tail_append_self]
    · rw [Function.update_of_ne hother, tail_append_of_ne hother]
      exact h.tail other
  case count =>
    intro other
    by_cases hother : other = lane
    · subst hother
      have hcount := h.count other
      have hroom := h.length_lt hfree other
      rw [Function.update_self]
      simp only [PendingQueue.append, Fin.getElem_fin, Vector.getElem_set_self, UInt16.toNat_add,
        List.length_append, List.length_singleton]
      rw [Fin.getElem_fin] at hcount
      unfold maxCapacity at hroom
      rw [UInt16.toNat_one, Nat.mod_eq_of_lt (by omega), hcount]
    · have hne : lane.val ≠ other.val := fun heq ↦ hother (Fin.ext heq).symm
      rw [Function.update_of_ne hother, ← h.count other]
      simp [PendingQueue.append, hne]
  case pending =>
    intro other
    have hmem :
        Signal.ofLane other ∈ (({ q with free } : PendingQueue).append lane index o).pending ↔
          Signal.ofLane other ∈ q.pending ∨ other = lane := by
      simp [PendingQueue.append, ho, Signal.ofLane_inj]
    rw [hmem, h.pending other]
    by_cases hother : other = lane
    · subst hother
      simp
    · rw [Function.update_of_ne hother]
      exact or_iff_left hother
  case signal =>
    intro other cell hcell
    by_cases hother : other = lane
    · subst hother
      rw [Function.update_self] at hcell
      rcases List.mem_append.1 hcell with hcell | hcell
      · exact h.signal other cell hcell
      · rw [List.mem_singleton.1 hcell]
        exact ho
    · rw [Function.update_of_ne hother] at hcell
      exact h.signal other cell hcell
  case slots =>
    have hupdate := linked_update chains lane (chains lane ++ [⟨index, o⟩])
    have hindices : (indices (chains lane ++ [⟨index, o⟩]) : Multiset UInt16) =
        {index} + indices (chains lane) := by
      simp [indices]
    rw [hindices, ← add_assoc] at hupdate
    rw [capacity_append, add_right_cancel hupdate]
    change linked chains + {index} + free.toList = (Multiset.range q.capacity).map Nat.toUInt16
    rw [← h.slots, hlist, ← Multiset.cons_coe, ← Multiset.singleton_add, add_assoc]

end Threaded

/-! ## Unlinking a record -/

section DropHead

variable {q : PendingQueue} {lane : Fin 64} {index : UInt16} {slot : Slot}

/-- Only the slot that is given back changes. -/
theorem slots_dropHead_of_ne {other : UInt16} (hindex : other ≠ index) :
    (q.dropHead lane index slot).slots[other.toNat]? = q.slots[other.toNat]? := by
  have hne : index.toNat ≠ other.toNat := fun h ↦ hindex (UInt16.toNat_inj.1 h).symm
  unfold dropHead
  simp only
  rw [Array.getElem?_modify, if_neg hne]

@[simp] theorem head_dropHead_self : (q.dropHead lane index slot).head lane = slot.next := by
  simp [head, dropHead]

theorem head_dropHead_of_ne {other : Fin 64} (hother : other ≠ lane) :
    (q.dropHead lane index slot).head other = q.head other := by
  have hne : lane.val ≠ other.val := fun h ↦ hother (Fin.ext h).symm
  simp [head, dropHead, hne]

theorem tail_dropHead_self : (q.dropHead lane index slot).tail lane =
    if slot.next = endOfList then endOfList else q.tail lane := by
  unfold tail dropHead
  simp only
  split <;> simp

theorem tail_dropHead_of_ne {other : Fin 64} (hother : other ≠ lane) :
    (q.dropHead lane index slot).tail other = q.tail other := by
  have hne : lane.val ≠ other.val := fun h ↦ hother (Fin.ext h).symm
  unfold tail dropHead
  simp only
  split
  · simp [hne]
  · rfl

/-- Another signal is pending exactly if it was. -/
theorem mem_pending_dropHead {other : Fin 64} :
    Signal.ofLane other ∈ (q.dropHead lane index slot).pending ↔
      Signal.ofLane other ∈ q.pending ∧ ¬ (slot.next = endOfList ∧ other = lane) := by
  unfold dropHead
  simp only
  split
  · rename_i hnext
    simp [hnext, Signal.ofLane_inj]
  · rename_i hnext
    simp [hnext]

end DropHead

namespace Threaded

variable {q : PendingQueue} {chains : Fin 64 → List Cell}

/-- The head of a list that is not empty is its first cell, whose slot links to the other cells. -/
theorem head_slot (h : Threaded q chains) {lane : Fin 64} {cell : Cell} {rest : List Cell}
    (hcells : chains lane = cell :: rest) :
    q.head lane = cell.index ∧ cell.index ≠ endOfList ∧
      ∃ next, q.slots[cell.index.toNat]? = some ⟨cell.occurrence, next⟩ ∧
        Chain q.slots next rest := by
  have hchain := h.chain lane
  rw [hcells] at hchain
  obtain ⟨hhead, next, hslot, hrest⟩ := hchain
  rw [hhead] at hslot
  exact ⟨hhead, h.ne_endOfList (Array.getElem?_eq_some_iff.1 hslot).1, next, hslot, hrest⟩

/-- Unlinking the head of a list makes that list shorter by its first record and leaves the other
lists alone. -/
theorem dropHead (h : Threaded q chains) {lane : Fin 64} {cell : Cell} {rest : List Cell}
    {next : UInt16} (hcells : chains lane = cell :: rest) (hrest : Chain q.slots next rest) :
    Threaded (q.dropHead lane cell.index ⟨cell.occurrence, next⟩)
      (Function.update chains lane rest) := by
  have hlinked := (Multiset.nodup_add.1 h.nodup_slots).1
  have hnodup := nodup_indices hlinked lane
  have hcell : cell.index ∈ indices (chains lane) := by rw [hcells]; exact List.mem_cons_self ..
  rw [hcells] at hnodup
  have hnext : rest = [] ↔ next = endOfList := hrest.eq_nil_iff h.capacity_le
  obtain ⟨free, hfree⟩ := h.exists_push? hcells
  obtain ⟨hlist, hcapacity⟩ := BoundedQueue.toList_of_push? hfree
  constructor
  case capacity_le => exact (capacity_dropHead _ _ _ _).trans_le h.capacity_le
  case free_capacity =>
    rw [capacity_dropHead]
    simp only [PendingQueue.dropHead, hfree, Option.getD_some]
    exact hcapacity.trans h.free_capacity
  case chain =>
    intro other
    by_cases hother : other = lane
    · subst hother
      rw [Function.update_self, head_dropHead_self]
      refine hrest.congr fun link hlink ↦ slots_dropHead_of_ne ?_
      rintro rfl
      exact (List.nodup_cons.1 hnodup).1 hlink
    · rw [Function.update_of_ne hother, head_dropHead_of_ne hother]
      refine (h.chain other).congr fun link hlink ↦ slots_dropHead_of_ne ?_
      rintro rfl
      exact hother (lane_eq_of_mem hlinked hlink hcell)
  case tail =>
    intro other
    by_cases hother : other = lane
    · subst hother
      rw [Function.update_self, tail_dropHead_self, h.tail other, hcells]
      cases rest with
      | nil => rw [if_pos (hnext.1 rfl)]; rfl
      | cons second rest =>
          rw [if_neg fun heq ↦ List.cons_ne_nil _ _ (hnext.2 heq)]
          simp [lastLink]
    · rw [Function.update_of_ne hother, tail_dropHead_of_ne hother]
      exact h.tail other
  case count =>
    intro other
    by_cases hother : other = lane
    · subst hother
      have hcount := h.count other
      rw [hcells, List.length_cons] at hcount
      rw [Function.update_self]
      simp only [PendingQueue.dropHead, Fin.getElem_fin, Vector.getElem_set_self] at hcount ⊢
      rw [UInt16.toNat_sub_of_le _ _ (by rw [UInt16.le_iff_toNat_le, hcount]; simp), hcount]
      simp
    · have hne : lane.val ≠ other.val := fun heq ↦ hother (Fin.ext heq).symm
      rw [Function.update_of_ne hother, ← h.count other]
      simp [PendingQueue.dropHead, hne]
  case pending =>
    intro other
    rw [mem_pending_dropHead, h.pending other]
    by_cases hother : other = lane
    · subst hother
      rw [Function.update_self, hcells, ne_eq rest, hnext]
      simp
    · rw [Function.update_of_ne hother]
      simp [hother]
  case signal =>
    intro other record hrecord
    by_cases hother : other = lane
    · subst hother
      rw [Function.update_self] at hrecord
      exact h.signal other record (hcells ▸ List.mem_cons_of_mem _ hrecord)
    · rw [Function.update_of_ne hother] at hrecord
      exact h.signal other record hrecord
  case slots =>
    have hupdate := linked_update chains lane rest
    have hindices : (indices (chains lane) : Multiset UInt16) = {cell.index} + indices rest := by
      rw [hcells]
      rfl
    rw [hindices, ← add_assoc] at hupdate
    rw [capacity_dropHead, ← h.slots, ← add_right_cancel hupdate]
    simp only [PendingQueue.dropHead, hfree, Option.getD_some]
    rw [hlist, ← Multiset.coe_add, ← Multiset.coe_singleton]
    ac_rfl

/-- A new queue has empty lists only. -/
theorem ofCapacity (requested : Nat) : Threaded (ofCapacity requested) fun _ ↦ [] := by
  have hle : clampCapacity requested ≤ maxCapacity := by
    unfold clampCapacity maxCapacity
    omega
  constructor
  case capacity_le => rwa [capacity_ofCapacity]
  case free_capacity => simp [PendingQueue.ofCapacity, BoundedQueue.filled, capacity]
  case chain =>
    intro lane
    simp [PendingQueue.ofCapacity, PendingQueue.head, Chain]
  case tail =>
    intro lane
    simp [PendingQueue.ofCapacity, PendingQueue.tail, lastLink]
  case count =>
    intro lane
    simp [PendingQueue.ofCapacity]
  case pending =>
    intro lane
    simp [PendingQueue.ofCapacity]
  case signal =>
    intro lane cell hcell
    cases hcell
  case slots =>
    rw [capacity_ofCapacity]
    simp [PendingQueue.ofCapacity, linked, indices, Multiset.range]

end Threaded

end SignalKernel.PendingQueue
