import SignalKernel.Proofs.Program.Reaching
import SignalKernel.Proofs.Program.Tally

/-!
# A blocked signal is never delivered

At the moment at which the sink is called for an occurrence, the thread does not block its signal.
Whatever handlers did to the mask since a sweep looked at it, every removal of a record looks again,
and between the removal and the call nothing is written. The record is unlinked by then: as
`Reached.covered` has it, what was delivered from a queue and what is still in it are different
records, each of which was queued once. The main theorem is `delivered_unblocked`.
-/

namespace SignalKernel.Program

open SignalKernel.Kernel

variable {allows : Call → Bool} {history marks : List Moment} {v v' : Mailboxes}
  {id : ThreadId} {timing : Timing} {o : Occurrence} {delivery : Delivery}

/-! ## Records are unlinked before they are delivered -/

/-- What was delivered from a queue and what is recorded was queued, in this order. Some of what was
queued may be gone, if a signal state was replaced. -/
def Covered (history : List Moment) (v : Mailboxes) : Prop :=
  ∀ id signal, (delivered [.deferred] id signal history ++ v.records id signal).Sublist
    (posted [.queued] id signal history)

/-- A moment that neither queues nor delivers from a queue does not matter. -/
theorem Covered.concat (h : Covered history v) {moment : Moment}
    (hposted : ∀ id signal, moment.posted? [.queued] id signal = none)
    (hdelivered : ∀ id signal, moment.delivered? [.deferred] id signal = none) :
    Covered (history ++ [moment]) v := by
  intro id signal
  rw [delivered_concat, posted_concat, hposted, hdelivered, Option.toList_none, List.append_nil,
    List.append_nil]
  exact h id signal

/-- Records may get lost. -/
theorem Covered.of_records (h : Covered history v)
    (hrecords : ∀ id signal, (v'.records id signal).Sublist (v.records id signal)) :
    Covered history v' :=
  fun id signal ↦ ((hrecords id signal).append_left _).trans (h id signal)

theorem Covered.of_records_eq (h : Covered history v)
    (hrecords : ∀ id signal, v'.records id signal = v.records id signal) : Covered history v' :=
  h.of_records fun id signal ↦ hrecords id signal ▸ List.Sublist.refl _

theorem Exchange.covered (h : Exchange v marks v')
    (hsound : AllSignals (fun s ↦ s.queue.Sound) v) (hv : Covered history v) :
    Covered (history ++ marks) v' := by
  cases h with
  | none =>
      rw [List.append_nil]
      exact hv
  | masked mode set hbox =>
      rw [List.append_nil]
      refine hv.of_records_eq fun other signal ↦ Mailboxes.records_update_of_eq hbox ?_ other
      exact SignalState.records_changeMask _ mode set signal
  | @replaced id box mask capacity hbox =>
      rw [List.append_nil]
      refine hv.of_records fun other signal ↦ ?_
      by_cases hother : other = id
      · subst hother
        rw [Mailboxes.records_update_self]
        show ((SignalState.ofMask mask capacity).records signal).Sublist _
        rw [SignalState.records_ofMask]
        exact List.nil_sublist _
      · rw [Mailboxes.records_update_of_ne hother]
  | swept id left => exact hv.concat (fun _ _ ↦ rfl) fun _ _ ↦ rfl
  | kept hbox houtcome =>
      intro other signal
      have hrecords := records_kept (List.mem_singleton_self Fate.queued) (by decide)
        (hsound _ _ hbox) hbox houtcome other signal
      rw [delivered_concat, posted_concat, hrecords, ← List.append_assoc]
      refine List.Sublist.append ?_ (.refl _)
      exact (List.append_nil _).symm ▸ hv other signal

theorem Handover.covered (h : Handover allows v id timing o marks v')
    (hdelivery : delivery.Is id timing o) (hv : Covered history v) :
    Covered (history ++ marks ++ [.delivered delivery]) v' := by
  have himmediate (htiming : timing = .immediate) (id : ThreadId) (signal : Nat) :
      (Moment.delivered delivery).delivered? [.deferred] id signal = none := by
    subst htiming
    rw [delivered?_of_is _ _ _ hdelivery, if_neg]
    exact fun ⟨_, _, hmem⟩ ↦ absurd hmem (by decide)
  cases h with
  | posted hbox houtcome =>
      refine (hv.concat (fun other signal ↦ ?_) fun _ _ ↦ rfl).concat (fun _ _ ↦ rfl)
        (himmediate rfl)
      rw [posted?_of_ok _ _ _ houtcome, if_neg]
      exact fun ⟨_, _, hmem⟩ ↦ absurd hmem (by decide)
  | taken hbox htaken =>
      intro other signal
      have hrecords := records_taken (List.mem_singleton_self Timing.deferred) hbox htaken
        hdelivery other signal
      rw [List.append_nil, delivered_concat, List.append_assoc, ← hrecords, posted_concat]
      exact (hv other signal).trans (List.sublist_append_left ..)
  | bare hallowed =>
      rw [List.append_nil]
      exact hv.concat (fun _ _ ↦ rfl) (himmediate rfl)

theorem Turn.covered {scheduler after : Scheduler} {holding left : List ThreadId}
    (h : Turn allows scheduler holding after left) (hs : Covered history scheduler.mailboxes) :
    Covered history after.mailboxes := by
  rcases h.mailboxes_eq with hsame | ⟨id, config, hnone, hadded⟩
  · rw [hsame]
    exact hs
  · rw [hadded]
    exact hs.of_records_eq fun other signal ↦ Mailboxes.records_spawn hnone config other

theorem Covered.passed (h : Covered history v) (point : Point) :
    Covered (history ++ [.passed point]) v :=
  h.concat (fun _ _ ↦ rfl) fun _ _ ↦ rfl

theorem Stage.Next.covered {phase phase' : Phase} {s s' : Stage}
    (h : s.Next allows phase phase' s')
    (hsound : AllSignals (fun s ↦ s.queue.Sound) s.scheduler.mailboxes)
    (hs : Covered s.history s.scheduler.mailboxes) :
    Covered s'.history s'.scheduler.mailboxes := by
  cases h with
  | worked hturns hexchange => exact hexchange.covered hsound hs
  | delivered sweeping hturns hhandover hfinds =>
      rw [List.append_cons]
      exact (hhandover.covered ⟨rfl, rfl, rfl⟩ hs).passed _
  | locked hthread hholding =>
      rw [Scheduler.mailboxes_lock]
      exact hs
  | turned hturn => exact hturn.covered hs
  | passed sweeping => exact hs.passed _

/-- At every stage, what was delivered from queues and what is recorded was queued before. -/
theorem Reached.covered {phase : Phase} {s : Stage} (h : Reached allows phase s) :
    Covered s.history s.scheduler.mailboxes := by
  induction h with
  | start =>
      intro id signal
      show ([] ++ Chronicle.initial.records id signal).Sublist []
      rw [records_initial]
      exact .refl _
  | next h hnext ih => exact hnext.covered (h.allSignals lasting_sound) ih

/-! ## What the sink finds -/

/-- What is handed over, other than by calling the sink directly, is of a signal that its thread
does not block. -/
theorem Handover.not_blocked (h : Handover allows v id timing o marks v')
    (hsink : ∀ o, allows (.signal (.deliver o)) = false)
    (hsound : AllSignals (fun s ↦ s.queue.Sound) v) :
    Signal.isValid o.signal = true ∧ ∃ box, v' id = some box ∧ o.signal ∉ box.signals.blocked := by
  cases h with
  | @posted box o busy hbox houtcome =>
      obtain ⟨hvalid, hfate⟩ := Post.outcome_eq_ok_iff.1 houtcome
      exact ⟨hvalid, box, hbox, SignalState.not_blocked_of_delivered hfate⟩
  | @taken box signal o left hbox htaken =>
      obtain rfl := htaken.signal_eq
      have hpending : o.signal ∈ box.signals.pending := by
        rw [SignalState.mem_pending (hsound _ _ hbox), htaken.records_eq]
        exact List.cons_ne_nil _ _
      refine ⟨SignalSet.isValid_of_mem hpending, _, Function.update_self .., ?_⟩
      rw [htaken.blocked_eq]
      exact htaken.not_blocked
  | bare hallowed =>
      rw [hsink] at hallowed
      cases hallowed

/-- What a delivery finds at its thread, as told by the point at which the sink takes over. -/
structure Delivery.FindsOpen (delivery : Delivery) (before : List Moment) (point : Point)
    (thread : Thread) : Prop where
  found : point.scheduler.threads.find? delivery.id = some thread
  mask : delivery.mask = thread.signals.blocked
  pending : delivery.pending = thread.signals.pending
  valid : 1 ≤ delivery.occurrence.signal ∧ delivery.occurrence.signal ≤ 64
  not_blocked : delivery.occurrence.signal ∉ delivery.mask
  /-- The signal is pending exactly if it has further records. -/
  further : delivery.occurrence.signal ∈ delivery.pending ↔
    thread.signals.records delivery.occurrence.signal ≠ []
  /-- The record that is delivered is none of these. What was delivered from the queue, up to this
  delivery, and what is still recorded was queued as one record each, in this order. -/
  unlinked : (delivered [.deferred] delivery.id delivery.occurrence.signal
      (before ++ [.delivered delivery]) ++
        thread.signals.records delivery.occurrence.signal).Sublist
    (posted [.queued] delivery.id delivery.occurrence.signal before)

theorem Delivery.Made.findsOpen {before : List Moment} {point : Point}
    (h : delivery.Made allows before point)
    (hsink : ∀ o, allows (.signal (.deliver o)) = false) :
    ∃ thread, delivery.FindsOpen before point thread := by
  obtain ⟨earlier, marks, hearlier, rfl, hhandover⟩ := h.step
  obtain ⟨hvalid, box, hbox, hopen⟩ :=
    hhandover.not_blocked hsink (hearlier.allSignals lasting_sound)
  obtain ⟨thread, hthread, rfl⟩ := Option.map_eq_some_iff.1 hbox
  have hget : point.scheduler.threads.get delivery.id = thread := by
    rw [ThreadTable.get, hthread]
    rfl
  obtain ⟨hmask, hpending⟩ := h.finds
  rw [hget] at hmask hpending
  refine ⟨thread, hthread, hmask, hpending, Signal.isValid_iff.1 hvalid, ?_, ?_, ?_⟩
  · rw [hmask]
    exact hopen
  · rw [hpending]
    exact SignalState.mem_pending (h.reached.sound hbox)
  · have hself : delivery.Is delivery.id delivery.timing delivery.occurrence := ⟨rfl, rfl, rfl⟩
    have hcovered := hhandover.covered hself hearlier.covered delivery.id
      delivery.occurrence.signal
    have hposted : (Moment.delivered delivery).posted? [.queued] delivery.id
        delivery.occurrence.signal = none := rfl
    rw [posted_concat, hposted, Option.toList_none, List.append_nil,
      Mailboxes.records_of_some hbox] at hcovered
    exact hcovered

/-- Every delivery is followed by a point that shows its signal not blocked. -/
def NoneBlocked (history : List Moment) : Prop :=
  ∀ before delivery after, history = before ++ .delivered delivery :: after →
    ∃ point rest thread, after = .passed point :: rest ∧ delivery.FindsOpen before point thread

/-- The call reaches the sink through the kernel only. -/
def SignalCall.leavesSink : SignalCall → Bool
  | .deliver _ => false
  | _ => true

/-- Whatever calls a program and its handlers make, as long as none of them calls the sink itself:
when the sink is called for an occurrence, the thread does not block its signal, and its record is
not in the thread's queue. -/
theorem delivered_unblocked (program : Program)
    (h : program.only SignalCall.leavesSink = true) : NoneBlocked program.history := by
  rw [← Program.every_onSignals] at h
  intro before delivery after hsplit
  obtain ⟨point, rest, hafter, hmade⟩ := (reached_final h).of_delivered hsplit
  obtain ⟨thread, hfinds⟩ := hmade.findsOpen fun _ ↦ rfl
  exact ⟨point, rest, thread, hafter, hfinds⟩

/-- A sweep of three records of two signals. The handler of the first one posts a fourth occurrence,
which is delivered at once, and blocks both signals, so that the sweep leaves the other two. -/
def blockedMidway : Program where
  handlers := [(34, [[
    .signal (.sigqueue 1 35 4),
    .signal (.changeMask (some 1) MaskMode.block.code (some (.ofList [34, 35])) false)]])]
  calls := [
    .scheduling (.spawn { pendingCapacity := 4, initialMask := .ofList [34, 35] }),
    .signal (.sigqueue 1 34 1),
    .signal (.sigqueue 1 34 2),
    .signal (.sigqueue 1 35 3),
    .signal (.changeMask (some 1) MaskMode.unblock.code (some (.ofList [34, 35])) false)]

theorem delivered_unblocked_blockedMidway :
    blockedMidway.only SignalCall.leavesSink = true ∧
      delivered [.deferred] 1 34 blockedMidway.history = [.carrying 34 0 1] ∧
      delivered [.immediate, .deferred] 1 35 blockedMidway.history = [.carrying 35 0 4] ∧
      blockedMidway.final.mailboxes.records 1 34 = [.carrying 34 0 2] ∧
      NoneBlocked blockedMidway.history :=
  ⟨by decide, by decide +kernel, by decide +kernel, by decide +kernel,
    delivered_unblocked blockedMidway (by decide)⟩

end SignalKernel.Program
