import Mathlib.Algebra.Order.BigOperators.Group.Finset
import SignalKernel.Proofs.Signals.SameLists

/-!
# Signals that gather posts

As long as signals are blocked, posts of them gather. What is gathered of a signal depends on its
own posts only, and all posts are accepted exactly if all that is gathered finds slots. So it makes
no difference in which order posts of different signals come: if one order has no post refused,
`sameLists_receiveAll` says that the other has none either, and that the signals cannot be told
apart in the end.
-/

namespace SignalKernel

/-- One sequence is a rearrangement of the other that keeps the posts of each signal in order. -/
def SameEach (os os' : List Occurrence) : Prop :=
  ∀ signal, os.filter (·.signal == signal) = os'.filter (·.signal == signal)

theorem SameEach.perm {os os' : List Occurrence} (h : SameEach os os') : os.Perm os' := by
  rw [List.perm_iff_count]
  intro o
  have hcount (os : List Occurrence) :
      (os.filter (·.signal == o.signal)).count o = os.count o :=
    List.count_filter (beq_self_eq_true o.signal)
  rw [← hcount os, ← hcount os', h]

namespace SignalState

/-- Every post of a sequence is accepted. -/
def Accepts (s : SignalState) : List Occurrence → Prop
  | [] => True
  | o :: rest => (∃ fate, (s.receive o).1 = .ok fate) ∧ (s.receive o).2.Accepts rest

/-- The signals after a sequence of posts. -/
def receiveAll (s : SignalState) : List Occurrence → SignalState
  | [] => s
  | o :: rest => (s.receive o).2.receiveAll rest

/-- What the list of a blocked signal becomes if all posts are accepted. -/
def gathered (s : SignalState) (os : List Occurrence) (signal : Nat) : List Occurrence :=
  if Signal.isRealtime signal then s.records signal ++ os.filter (·.signal == signal)
  else if s.records signal = [] then (os.filter (·.signal == signal)).take 1
  else s.records signal

variable {s : SignalState} {o : Occurrence} {os os' : List Occurrence}

theorem gathered_nil (s : SignalState) (signal : Nat) :
    s.gathered [] signal = s.records signal := by
  unfold gathered
  split
  · exact List.append_nil _
  · split
    · rename_i hrecords
      exact hrecords.symm
    · rfl

theorem gathered_congr (h : SameEach os os') (s : SignalState) (signal : Nat) :
    s.gathered os signal = s.gathered os' signal := by
  rw [gathered, gathered, h signal]

/-- A post of another signal is not gathered. -/
theorem gathered_cons_of_ne (s : SignalState) (os : List Occurrence) {signal : Nat}
    (h : signal ≠ o.signal) : s.gathered (o :: os) signal = s.gathered os signal := by
  have hfilter : (o :: os).filter (·.signal == signal) = os.filter (·.signal == signal) :=
    List.filter_cons_of_neg fun hsignal ↦ h (beq_iff_eq.1 hsignal).symm
  rw [gathered, gathered, hfilter]

theorem gathered_cons_self (s : SignalState) (o : Occurrence) (os : List Occurrence) :
    s.gathered (o :: os) o.signal =
      if Signal.isRealtime o.signal then
        s.records o.signal ++ o :: os.filter (·.signal == o.signal)
      else if s.records o.signal = [] then [o]
      else s.records o.signal := by
  have hfilter : (o :: os).filter (·.signal == o.signal) =
      o :: os.filter (·.signal == o.signal) :=
    List.filter_cons_of_pos (beq_self_eq_true o.signal)
  rw [gathered, hfilter]
  rfl

/-- Nothing is lost of what was there before. -/
theorem length_records_le_gathered (s : SignalState) (os : List Occurrence) (signal : Nat) :
    (s.records signal).length ≤ (s.gathered os signal).length := by
  unfold gathered
  split
  · rw [List.length_append]
    exact Nat.le_add_right _ _
  · split
    · rename_i hrecords
      rw [hrecords]
      exact Nat.zero_le _
    · exact Nat.le_refl _

/-- A post that does not coalesce makes the list longer. -/
theorem length_records_lt_gathered (h : ¬ s.Coalesces o) (os : List Occurrence) :
    (s.records o.signal).length < (s.gathered (o :: os) o.signal).length := by
  rw [gathered_cons_self]
  split
  · rw [List.length_append, List.length_cons]
    omega
  · rename_i hstandard
    have hrecords : s.records o.signal = [] := by
      by_contra hne
      exact h ⟨Bool.eq_false_iff.2 hstandard, hne⟩
    rw [if_pos hrecords, hrecords]
    exact Nat.zero_lt_one

/-- What is gathered in the end does not depend on whether an accepted post was made already. -/
theorem gathered_receive (hq : s.queue.Sound) (hblocked : o.signal ∈ s.blocked) {fate : Fate}
    (hfate : (s.receive o).1 = .ok fate) (os : List Occurrence) (signal : Nat) :
    (s.receive o).2.gathered os signal = s.gathered (o :: os) signal := by
  have houtcome := receive_outcome hq (SignalSet.isValid_of_mem hblocked)
  rw [if_neg (not_not_intro hblocked)] at houtcome
  by_cases hcoalesces : s.Coalesces o
  · have hsame : (s.receive o).2 = s := receive_of_ne_queued (by rw [houtcome]; simp [hcoalesces])
    rw [hsame]
    by_cases hsignal : signal = o.signal
    · subst hsignal
      obtain ⟨hstandard, hrecords⟩ := hcoalesces
      rw [gathered_cons_self, gathered, hstandard, if_neg Bool.false_ne_true,
        if_neg Bool.false_ne_true, if_neg hrecords, if_neg hrecords]
    · exact (gathered_cons_of_ne s os hsignal).symm
  · have hqueued : (s.receive o).1 = .ok .queued := by
      rw [if_neg hcoalesces] at houtcome
      split at houtcome
      · rw [hfate] at houtcome
        cases houtcome
      · exact houtcome
    by_cases hsignal : signal = o.signal
    · subst hsignal
      rw [gathered_cons_self, gathered, records_receive hq hqueued, if_pos rfl]
      split
      · exact List.append_assoc ..
      · rename_i hstandard
        have hrecords : s.records o.signal = [] := by
          by_contra hne
          exact hcoalesces ⟨Bool.eq_false_iff.2 hstandard, hne⟩
        rw [hrecords]
        rfl
    · rw [gathered_cons_of_ne s os hsignal, gathered, gathered, records_receive hq hqueued,
        if_neg hsignal]

/-- All posts are accepted exactly if there is a slot for every record that is gathered. -/
theorem accepts_iff (hq : s.queue.Sound) (hblocked : ∀ o ∈ os, o.signal ∈ s.blocked) :
    s.Accepts os ↔
      ∑ lane : Fin 64, (s.gathered os (Signal.ofLane lane)).length ≤ s.queue.capacity := by
  induction os generalizing s with
  | nil =>
      have htotal := PendingQueue.total_add_free hq
      rw [SharedLists.total, totalLength] at htotal
      refine iff_of_true trivial ?_
      simp only [gathered_nil]
      show ∑ lane, (s.queue.lists.list lane).length ≤ _
      omega
  | cons o rest ih =>
      rw [List.forall_mem_cons] at hblocked
      obtain ⟨ho, hrest⟩ := hblocked
      cases houtcome : (s.receive o).1 with
      | ok fate =>
          have hrest' : ∀ o' ∈ rest, o'.signal ∈ (s.receive o).2.blocked := by
            rw [blocked_receive]
            exact hrest
          have hiff := ih (sound_receive hq o) hrest'
          rw [capacity_receive] at hiff
          simp only [gathered_receive hq ho houtcome] at hiff
          rw [← hiff, Accepts, houtcome]
          exact and_iff_right ⟨fate, rfl⟩
      | error error =>
          -- all slots are in use, and one more record was to be gathered
          have hreceive := receive_outcome hq (SignalSet.isValid_of_mem ho)
          rw [houtcome, if_neg (not_not_intro ho)] at hreceive
          have hrefused : ¬ s.Coalesces o ∧ s.queue.isFull := by
            split at hreceive
            · cases hreceive
            · rename_i hcoalesces
              split at hreceive
              · rename_i hfull
                exact ⟨hcoalesces, hfull⟩
              · cases hreceive
          have hfull := (PendingQueue.isFull_iff_total hq).1 hrefused.2
          rw [SharedLists.total, totalLength] at hfull
          obtain ⟨lane, hlane⟩ := Option.isSome_iff_exists.1
            (Signal.isValid_iff_lane?.1 (SignalSet.isValid_of_mem ho))
          have hsignal := Signal.ofLane_of_lane? hlane
          have hmore : ∑ lane : Fin 64, (s.records (Signal.ofLane lane)).length <
              ∑ lane : Fin 64, (s.gathered (o :: rest) (Signal.ofLane lane)).length := by
            refine Finset.sum_lt_sum (fun lane _ ↦ length_records_le_gathered s _ _)
              ⟨lane, Finset.mem_univ lane, ?_⟩
            rw [hsignal]
            exact length_records_lt_gathered hrefused.1 rest
          refine iff_of_false ?_ ?_
          · rintro ⟨⟨fate, hfate⟩, -⟩
            rw [houtcome] at hfate
            cases hfate
          · intro hle
            exact absurd (hmore.trans_le hle) (Nat.not_lt.2 (Nat.le_of_eq hfull.symm))

theorem sound_receiveAll (hq : s.queue.Sound) (os : List Occurrence) :
    (s.receiveAll os).queue.Sound := by
  induction os generalizing s with
  | nil => exact hq
  | cons o rest ih => exact ih (sound_receive hq o)

theorem blocked_receiveAll (s : SignalState) (os : List Occurrence) :
    (s.receiveAll os).blocked = s.blocked := by
  induction os generalizing s with
  | nil => rfl
  | cons o rest ih => exact (ih _).trans (blocked_receive s o)

theorem capacity_receiveAll (s : SignalState) (os : List Occurrence) :
    (s.receiveAll os).queue.capacity = s.queue.capacity := by
  induction os generalizing s with
  | nil => rfl
  | cons o rest ih => exact (ih _).trans (capacity_receive s o)

/-- Accepted posts of blocked signals are gathered. -/
theorem records_receiveAll (hq : s.queue.Sound) (hblocked : ∀ o ∈ os, o.signal ∈ s.blocked)
    (haccepts : s.Accepts os) (signal : Nat) :
    (s.receiveAll os).records signal = s.gathered os signal := by
  induction os generalizing s with
  | nil => exact (gathered_nil s signal).symm
  | cons o rest ih =>
      rw [List.forall_mem_cons] at hblocked
      obtain ⟨⟨fate, hfate⟩, hrest⟩ := haccepts
      have hblocked' : ∀ o' ∈ rest, o'.signal ∈ (s.receive o).2.blocked := by
        rw [blocked_receive]
        exact hblocked.2
      rw [← gathered_receive hq hblocked.1 hfate]
      exact ih (sound_receive hq o) hblocked' hrest

/-- The order in which posts of different blocked signals come makes no difference. -/
theorem sameLists_receiveAll (hq : s.queue.Sound) (hsame : SameEach os os')
    (hblocked : ∀ o ∈ os, o.signal ∈ s.blocked) (haccepts : s.Accepts os) :
    s.Accepts os' ∧ (s.receiveAll os).SameLists (s.receiveAll os') := by
  have hblocked' : ∀ o ∈ os', o.signal ∈ s.blocked :=
    fun o ho ↦ hblocked o (hsame.perm.mem_iff.2 ho)
  have haccepts' : s.Accepts os' := by
    rw [accepts_iff hq hblocked] at haccepts
    rw [accepts_iff hq hblocked']
    simp only [gathered_congr hsame] at haccepts
    exact haccepts
  refine ⟨haccepts', ?_⟩
  apply sameLists_of_records (sound_receiveAll hq os) (sound_receiveAll hq os')
  · rw [blocked_receiveAll, blocked_receiveAll]
  · rw [capacity_receiveAll, capacity_receiveAll]
  · intro signal
    rw [records_receiveAll hq hblocked haccepts, records_receiveAll hq hblocked' haccepts',
      gathered_congr hsame]

end SignalState

end SignalKernel
