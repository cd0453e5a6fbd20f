import SignalKernel.Proofs.Program.Chronicle

/-!
# Every pending signal is blocked

As long as no thread's signals are replaced, a run never passes a point at which a thread has a
pending signal that is not blocked, unless a sweep of that thread is in progress there. The main
theorem, `pending_blocked`, says this of every program, whatever its handlers do and however deep
deliveries nest, and that every sweep leaves nothing deliverable, in the middle of another one as
well.
-/

namespace SignalKernel.Program

open SignalKernel.Kernel

/-- The call leaves every thread the signal state that it has. -/
def SignalCall.keepsState : SignalCall → Bool
  | .resetState .. => false
  | _ => true

/-- The chronicle that asks nothing of histories: all that matters is that their moments are
calm. -/
def anyHistory : Chronicle where
  allows := SignalCall.keepsState
  allows_reset _ _ _ := rfl
  agree _ _ := True
  mask _ _ _ _ := trivial
  spawn _ _ _ := trivial
  point _ _ _ := trivial
  swept _ _ _ _ := trivial
  kept _ _ _ _ _ := trivial
  handed _ _ _ _ _ _ := trivial
  taken _ _ _ _ _ := trivial
  bare _ _ _ := trivial

/-- Nothing is deliverable, except on threads that are being swept. -/
structure NothingDeliverable (history : List Moment) : Prop where
  /-- At a point at which no sweep of a thread is in progress, its pending signals are blocked. -/
  blocked : ∀ point, .passed point ∈ history → ∀ id thread,
    point.scheduler.threads.find? id = some thread → id ∉ point.sweeping →
      (∀ signal ∈ thread.signals.pending, signal ∈ thread.signals.blocked) ∧
        thread.signals.hasDeliverable = false
  /-- A sweep from such a point delivers nothing and changes nothing, but that it enters and leaves
  one critical section. -/
  idle : ∀ point, .passed point ∈ history → ∀ id thread,
    point.scheduler.threads.find? id = some thread → id ∉ point.sweeping →
      ∀ {γ : Type} (sink : Sink γ) (kernel : Kernel γ), kernel.scheduler = point.scheduler →
        Kernel.sweep sink id kernel =
            (0, { kernel with core := kernel.core.enter.2.leave kernel.core.enter.1 }) ∧
          (kernel.core.MayEnter → Kernel.sweep sink id kernel = (0, kernel))
  /-- A sweep leaves nothing deliverable, whatever else is in progress, and so does a change of a
  mask. -/
  swept : ∀ id left, .swept id left ∈ history →
    (∀ signal ∈ left.pending, signal ∈ left.blocked) ∧ left.hasDeliverable = false

theorem hasDeliverable_of_settled {s : SignalState} (hq : s.queue.Sound) (h : s.Settled) :
    (∀ signal ∈ s.pending, signal ∈ s.blocked) ∧ s.hasDeliverable = false := by
  refine ⟨(SignalState.settled_iff_pending hq).1 h, ?_⟩
  unfold SignalState.hasDeliverable
  rw [Bool.not_eq_false', SignalSet.isEmpty_iff]
  exact (SignalState.settled_iff_deliverable hq).1 h

/-- Whatever calls a program and its handlers make, as long as none of them replaces a thread's
signal state: every pending signal of a thread is blocked, unless the thread is being swept. -/
theorem pending_blocked (program : Program) (h : program.only SignalCall.keepsState = true) :
    NothingDeliverable program.history := by
  have hcalm := (anyHistory.past h trivial).calm
  have hpoint {point : Point} (hmem : .passed point ∈ program.history) {id : ThreadId}
      {thread : Thread} (hthread : point.scheduler.threads.find? id = some thread)
      (hidle : id ∉ point.sweeping) :
      point.scheduler.mailboxes id = some thread.mailbox ∧ thread.signals.queue.Sound ∧
        thread.signals.Settled := by
    obtain ⟨hsound, hsettled⟩ := hcalm (.passed point) hmem
    have hbox : point.scheduler.mailboxes id = some thread.mailbox :=
      congrArg (Option.map Thread.mailbox) hthread
    exact ⟨hbox, (hsound id _ hbox).queue, hsettled id _ hbox hidle⟩
  constructor
  case blocked =>
    intro point hmem id thread hthread hidle
    obtain ⟨-, hq, hsettled⟩ := hpoint hmem hthread hidle
    exact hasDeliverable_of_settled hq hsettled
  case idle =>
    intro point hmem id thread hthread hidle γ sink kernel hscheduler
    obtain ⟨hbox, hq, hsettled⟩ := hpoint hmem hthread hidle
    have hbox' : kernel.mailboxes id = some thread.mailbox := by
      rw [Kernel.mailboxes, hscheduler]
      exact hbox
    have hswept := sweep_of_settled sink hbox' hq hsettled
    refine ⟨hswept, fun hcore ↦ ?_⟩
    rw [hswept, Core.leave_enter hcore]
  case swept =>
    intro id left hmem
    obtain ⟨hq, hsettled⟩ := hcalm (.swept id left) hmem
    exact hasDeliverable_of_settled hq hsettled

/-- A sweep of two records. The handler of the first one blocks the signal, posts a third record,
and unblocks the signal again, so that a sweep inside the first one delivers what is left. -/
def sweepInSweep : Program where
  handlers := [(34, [[
    .signal (.changeMask (some 1) MaskMode.block.code (some (.ofList [34])) false),
    .signal (.post (some 1) (.carrying 34 0 3)),
    .signal (.changeMask (some 1) MaskMode.unblock.code (some (.ofList [34])) false)]])]
  calls := [
    .scheduling (.spawn { pendingCapacity := 2, initialMask := .ofList [34] }),
    .signal (.post (some 1) (.carrying 34 0 1)),
    .signal (.post (some 1) (.carrying 34 0 2)),
    .signal (.changeMask (some 1) MaskMode.unblock.code (some (.ofList [34])) false)]

/-- The threads that have a sweep in progress at each point of a history. -/
def sweeps (history : List Moment) : List (List ThreadId) :=
  history.filterMap fun
    | .passed point => some point.sweeping
    | _ => none

theorem pending_blocked_sweepInSweep :
    sweepInSweep.only SignalCall.keepsState = true ∧ [1, 1] ∈ sweeps sweepInSweep.history ∧
      NothingDeliverable sweepInSweep.history :=
  ⟨by decide, by decide +kernel, pending_blocked sweepInSweep (by decide)⟩

end SignalKernel.Program
