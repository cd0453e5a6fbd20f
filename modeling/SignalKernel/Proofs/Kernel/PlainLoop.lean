import SignalKernel.Proofs.Kernel.Custody
import SignalKernel.Proofs.Kernel.Guarding
import SignalKernel.Proofs.Signals.Traversal

/-!
# The plain loop that a sweep amounts to

A sweep looks once at what is deliverable and bounds how often it looks at each list. The plain
loop does neither: before every record it looks at the thread's signals afresh, and it goes on until
nothing is deliverable. `PlainLoop` relates the kernels before and after such a loop and the
occurrences that it handed over. The main theorem, `sweep_eq_plainLoop`, says that a sweep is this
loop, whatever handlers do in between: they may post, change masks and sweep, also on the thread
that is being swept, as long as the thread keeps its signal state.

The two agree because handlers cannot make anything deliverable for long. While a signal is drained,
all lower ones are clean and stay so, hence the lowest deliverable signal is the one being drained
for as long as there is a record of it to take.
-/

namespace SignalKernel.Kernel

variable {γ : Type}

/-- How a round of the plain loop ends. -/
inductive Round where
  /-- Nothing is deliverable. -/
  | ended
  /-- There was a deliverable signal, but no record of it any more. -/
  | missed
  /-- A record was taken and handed over. -/
  | handed (o : Occurrence)
deriving DecidableEq

/-- A round of the plain loop: look up the lowest deliverable signal, and if there is one, take its
oldest record and hand it over. -/
def plainRound (sink : Sink γ) (id : ThreadId) : KernelM γ Round := do
  match ← readSignals id (·.deliverable.first?) with
  | none => pure .ended
  | some signal =>
      match ← withSignals id (·.takeUnblocked signal) with
      | none => pure .missed
      | some o =>
          deliverTaken sink id o
          pure (.handed o)

/-- The plain loop goes from one kernel to another and hands over a list of occurrences. -/
inductive PlainLoop (sink : Sink γ) (id : ThreadId) :
    Kernel γ → List Occurrence → Kernel γ → Prop
  | ended {kernel} (h : (plainRound sink id kernel).1 = .ended) :
      PlainLoop sink id kernel [] (plainRound sink id kernel).2
  | missed {kernel handed after} (h : (plainRound sink id kernel).1 = .missed)
      (hrest : PlainLoop sink id (plainRound sink id kernel).2 handed after) :
      PlainLoop sink id kernel handed after
  | handed {kernel o handed after} (h : (plainRound sink id kernel).1 = .handed o)
      (hrest : PlainLoop sink id (plainRound sink id kernel).2 handed after) :
      PlainLoop sink id kernel (o :: handed) after

/-- A sweep is the plain loop: it hands over the same occurrences in the same order and ends in the
same kernel, and its result is the number of occurrences that it handed over itself. -/
def SweepsAsLoop (sink : Sink γ) (id : ThreadId) (kernel : Kernel γ) : Prop :=
  ∃ handed, (sweep sink id kernel).1 = handed.length ∧ ∀ handed' after,
    PlainLoop sink id kernel handed' after ↔
      handed' = handed ∧ after = (sweep sink id kernel).2

/-- The loop can end in one way only. -/
theorem PlainLoop.unique {sink : Sink γ} {id : ThreadId} {kernel after after' : Kernel γ}
    {handed handed' : List Occurrence} (h : PlainLoop sink id kernel handed after)
    (h' : PlainLoop sink id kernel handed' after') : handed' = handed ∧ after' = after := by
  induction h generalizing handed' with
  | ended hround =>
      cases h' with
      | ended => exact ⟨rfl, rfl⟩
      | missed hround' => rw [hround] at hround'; cases hround'
      | handed hround' => rw [hround] at hround'; cases hround'
  | missed hround hrest ih =>
      cases h' with
      | ended hround' => rw [hround] at hround'; cases hround'
      | missed hround' hrest' => exact ih hrest'
      | handed hround' => rw [hround] at hround'; cases hround'
  | handed hround hrest ih =>
      cases h' with
      | ended hround' => rw [hround] at hround'; cases hround'
      | missed hround' => rw [hround] at hround'; cases hround'
      | handed hround' hrest' =>
          rw [hround] at hround'
          cases hround'
          obtain ⟨hhanded, hafter⟩ := ih hrest'
          exact ⟨congrArg (_ :: ·) hhanded, hafter⟩

section Rounds

variable {C : Custody γ} {sink : Sink γ} {id : ThreadId} {kernel after : Kernel γ} {box : Mailbox}
  (horderly : C.Orderly kernel) (hfew : C.Few kernel) (hbox : kernel.mailboxes id = some box)
include horderly hfew hbox

/-- If nothing is deliverable the loop is over, and has changed nothing. -/
theorem plainLoop_of_settled (hq : box.signals.queue.Sound) (hsettled : box.signals.Settled) :
    PlainLoop sink id kernel [] kernel := by
  have hnone : (kernel.thread id).signals.deliverable.first? = none := by
    rw [(signals_thread hbox).1, SignalSet.first?_eq_none_iff]
    exact (SignalState.settled_iff_deliverable hq).1 hsettled
  have hround : plainRound sink id kernel = (.ended, kernel) := by
    rw [plainRound, run_bind, readSignals_of_mayEnter (horderly.mayEnter hfew), hnone]
    rfl
  have hover : PlainLoop sink id kernel [] (plainRound sink id kernel).2 :=
    .ended (congrArg Prod.fst hround)
  rwa [hround] at hover

/-- If a signal has a record to take and all lower signals are clean, the loop takes the record and
goes on. -/
theorem plainLoop_of_taken (hq : box.signals.queue.Sound) {signal : Nat} {o : Occurrence}
    (htake : (box.signals.takeUnblocked signal).1 = some o)
    (hlower : ∀ lower < signal, box.signals.Clean lower) {handed : List Occurrence}
    (hrest : PlainLoop sink id
      (deliverTaken sink id o (withSignals id (·.takeUnblocked signal) kernel).2).2 handed after) :
    PlainLoop sink id kernel (o :: handed) after := by
  have hfrom := SignalState.takeUnblocked_of_some hq htake
  have hdeliverable : signal ∈ box.signals.deliverable := by
    rw [← not_not (a := signal ∈ _), ← SignalState.clean_iff hq]
    rintro (hblocked | hempty)
    · exact hfrom.not_blocked hblocked
    · rw [hfrom.records_eq] at hempty
      cases hempty
  -- nothing lower is deliverable, so that this is the signal the loop looks up
  have hfirst : (kernel.thread id).signals.deliverable.first? = some signal := by
    rw [(signals_thread hbox).1]
    cases hfirst : box.signals.deliverable.first? with
    | none =>
        rw [SignalSet.first?_eq_none_iff] at hfirst
        rw [hfirst] at hdeliverable
        exact absurd hdeliverable (SignalSet.not_mem_empty signal)
    | some first =>
        have hle := SignalSet.le_of_first? hfirst hdeliverable
        rcases Nat.lt_or_eq_of_le hle with hlt | rfl
        · have hclean := (SignalState.clean_iff hq).1 (hlower first hlt)
          exact absurd (SignalSet.mem_of_first? hfirst) hclean
        · rfl
  have htaken : (withSignals id (·.takeUnblocked signal) kernel).1 = some o := by
    rw [← htake, ← (signals_thread hbox).1]
    rfl
  have hround : plainRound sink id kernel = (.handed o,
      (deliverTaken sink id o (withSignals id (·.takeUnblocked signal) kernel).2).2) := by
    rw [plainRound, run_bind, readSignals_of_mayEnter (horderly.mayEnter hfew), hfirst]
    simp only
    rw [run_bind, htaken]
    rfl
  refine .handed (congrArg Prod.fst hround) ?_
  rw [hround]
  exact hrest

end Rounds

section Sweep

variable {C : Custody γ} {A : γ → Prop} {sink : Sink γ} {id : ThreadId} {kernel : Kernel γ}
  {box : Mailbox} (hguards : sink.Guards A id)
  (hkeeps : ∀ target timing o, C.Keeps (sink target timing o))
include hguards hkeeps

omit hguards in
/-- Taking a record and handing it over keeps everything in order. -/
theorem keeps_taking (id : ThreadId) (signal : Nat) (o : Occurrence) :
    ∀ kernel : Kernel γ, C.Upkeep kernel
      (deliverTaken sink id o (withSignals id (·.takeUnblocked signal) kernel).2).2 :=
  (Custody.keeps_withSignals id (·.takeUnblocked signal)).bind fun _ ↦
    (Custody.keeps_notify _).bind fun _ ↦
      (Custody.keeps_notify _).bind fun _ ↦ hkeeps id .deferred o

/-- Draining a signal is the beginning of the plain loop, if all lower signals are clean. -/
theorem drain_eq_plainLoop (hkernel : kernel.Guarded A id) (horderly : C.Orderly kernel)
    (hbox : kernel.mailboxes id = some box) {signal limit delivered : Nat}
    (hfew : C.Few (drain sink id signal limit delivered kernel).2)
    (hlower : ∀ lower < signal, box.signals.Clean lower) :
    ∃ handed, (drain sink id signal limit delivered kernel).1 = delivered + handed.length ∧
      ∀ later after,
        PlainLoop sink id (drain sink id signal limit delivered kernel).2 later after →
          PlainLoop sink id kernel (handed ++ later) after := by
  induction limit generalizing kernel box delivered with
  | zero => exact ⟨[], rfl, fun later after hlater ↦ hlater⟩
  | succ limit ih =>
      have hq := (hkernel.sound box hbox).queue
      obtain ⟨hsignals, -⟩ := signals_thread hbox
      have hfew' := (Custody.keeps_drain hkeeps id signal (limit + 1) delivered kernel).few hfew
      cases htake : (box.signals.takeUnblocked signal).1 with
      | none =>
          -- nothing was taken, and to look leaves no trace
          have hkept := (SignalState.takeUnblocked_of_none hq htake).2
          rw [← hsignals] at hkept htake
          have hlooked : withSignals id (·.takeUnblocked signal) kernel = (_, kernel) :=
            withSignals_of_unchanged (horderly.mayEnter hfew') (horderly.nodup hfew') hkept
          rw [drain_of_none htake, hlooked]
          exact ⟨[], rfl, fun later after hlater ↦ hlater⟩
      | some o =>
          obtain ⟨hhanded, box', hbox', -, hdrains, -⟩ :=
            delivered_taken hguards hkernel hbox htake
          rw [drain_of_some (hsignals ▸ htake)] at hfew ⊢
          have hfewHanded := (Custody.keeps_drain hkeeps id signal limit (delivered + 1) _).few hfew
          have hordered := (keeps_taking hkeeps id signal o kernel).orderly hfewHanded horderly
          obtain ⟨handed, hcount, hloop⟩ := ih hhanded hordered hbox' hfew
            fun lower hlt ↦ hdrains.clean (hlower lower hlt)
          refine ⟨o :: handed, ?_, fun later after hlater ↦ ?_⟩
          · rw [hcount, List.length_cons]
            omega
          · exact plainLoop_of_taken horderly hfew' hbox hq htake hlower (hloop later after hlater)

/-- Draining several signals in ascending order is the plain loop, if all others are clean. -/
theorem drainEach_eq_plainLoop (hkernel : kernel.Guarded A id) (horderly : C.Orderly kernel)
    (hbox : kernel.mailboxes id = some box) {signals : List Nat} {delivered : Nat}
    (hfew : C.Few (drainEach sink id box.capacity signals delivered kernel).2)
    (hascending : signals.Pairwise (· < ·))
    (hothers : ∀ signal ∉ signals, box.signals.Clean signal) :
    ∃ handed,
      (drainEach sink id box.capacity signals delivered kernel).1 = delivered + handed.length ∧
        PlainLoop sink id kernel handed
          (drainEach sink id box.capacity signals delivered kernel).2 := by
  induction signals generalizing kernel box delivered with
  | nil =>
      have hsettled : box.signals.Settled := fun signal ↦ hothers signal List.not_mem_nil
      have hq := (hkernel.sound box hbox).queue
      exact ⟨[], rfl, plainLoop_of_settled horderly hfew hbox hq hsettled⟩
  | cons first rest ih =>
      obtain ⟨habove, hascending'⟩ := List.pairwise_cons.1 hascending
      have hlower : ∀ lower < first, box.signals.Clean lower := by
        refine fun lower hlt ↦ hothers lower fun hmem ↦ ?_
        rcases List.mem_cons.1 hmem with rfl | hrest
        · exact Nat.lt_irrefl _ hlt
        · exact Nat.lt_asymm hlt (habove lower hrest)
      obtain ⟨hguarded, box', hbox', hcapacity, hdrains, hclean⟩ :=
        drain_leaves_clean hguards hkernel hbox first delivered
      rw [drainEach, run_bind, ← hcapacity] at hfew ⊢
      rw [← hcapacity] at hguarded hbox'
      have hfewMiddle := (Custody.keeps_drainEach hkeeps id box'.capacity rest _ _).few hfew
      have hordered :=
        (Custody.keeps_drain hkeeps id first box'.capacity delivered kernel).orderly hfewMiddle
          horderly
      -- the signal that was drained is clean now, and all that were clean before still are
      have hothers' : ∀ signal ∉ rest, box'.signals.Clean signal := by
        intro signal hsignal
        by_cases hfirst : signal = first
        · exact hfirst ▸ hclean
        · refine hdrains.clean (hothers signal fun hmem ↦ ?_)
          exact (List.mem_cons.1 hmem).elim hfirst hsignal
      obtain ⟨handed, hcount, hloop⟩ := drain_eq_plainLoop hguards hkeeps hkernel horderly hbox
        hfewMiddle hlower
      obtain ⟨later, hcount', hlater⟩ := ih hguarded hordered hbox' hfew hascending' hothers'
      refine ⟨handed ++ later, ?_, hloop later _ hlater⟩
      rw [hcount', hcount, List.length_append, Nat.add_assoc]

/-- If the thread and the core are treated well, a sweep is the plain loop. -/
theorem sweep_eq_plainLoop (hkernel : kernel.Guarded A id) (horderly : C.Orderly kernel)
    (hbox : kernel.mailboxes id = some box) (hfew : C.Few (sweep sink id kernel).2) :
    SweepsAsLoop sink id kernel := by
  have hq := (hkernel.sound box hbox).queue
  have hfewBefore := (Custody.keeps_operation hkeeps (.sweep id) kernel).few hfew
  have hread := readSignals_of_mayEnter (horderly.mayEnter hfewBefore) id (·.deliverable)
  obtain ⟨hsignals, hcapacity⟩ := signals_thread hbox
  rw [hsignals] at hread
  have hloop : ∃ handed, (sweep sink id kernel).1 = handed.length ∧
      PlainLoop sink id kernel handed (sweep sink id kernel).2 := by
    rw [sweep, run_bind, hread] at hfew ⊢
    by_cases hempty : box.signals.deliverable.isEmpty = true
    · rw [if_pos hempty]
      have hsettled := (SignalState.settled_iff_deliverable hq).2 (SignalSet.isEmpty_iff.1 hempty)
      exact ⟨[], rfl, plainLoop_of_settled horderly hfewBefore hbox hq hsettled⟩
    · rw [if_neg hempty, run_bind, run_get, hcapacity] at hfew ⊢
      -- what the sweep did not see at its beginning is clean
      have hothers : ∀ signal ∉ box.signals.deliverable.toList, box.signals.Clean signal := by
        intro signal hsignal
        rwa [SignalState.clean_iff hq, ← SignalSet.mem_toList]
      obtain ⟨handed, hcount, hloop⟩ := drainEach_eq_plainLoop hguards hkeeps hkernel horderly hbox
        hfew (SignalSet.pairwise_toList _) hothers
      exact ⟨handed, hcount.trans (Nat.zero_add _), hloop⟩
  obtain ⟨handed, hcount, hloop⟩ := hloop
  refine ⟨handed, hcount, fun handed' after ↦ ⟨fun h ↦ hloop.unique h, ?_⟩⟩
  rintro ⟨rfl, rfl⟩
  exact hloop

end Sweep

end SignalKernel.Kernel
