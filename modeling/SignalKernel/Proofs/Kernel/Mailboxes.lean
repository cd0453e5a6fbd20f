import Mathlib.Logic.Function.Basic
import SignalKernel.Proofs.Kernel.Turns
import SignalKernel.Proofs.Signals.State

/-!
# What the kernel's operations do to mailboxes

All that posting and delivering reads or writes of a thread is its signals and the number of slots
that it was created with, its mailbox. Two kernels are `Alike` if they have the same mailboxes and
the same client; taking locks, logging, switching threads and reporting errors leads from a kernel
to one alike. `Rests` says that the turns are the same as well. The operations that do more are
described by what they do to the mailboxes and by the kernels on which they call the sink.
-/

namespace SignalKernel

/-- What posting and delivering reads and writes of a thread. -/
structure Mailbox where
  signals : SignalState
  capacity : Nat

/-- A thread's mailbox. -/
def Thread.mailbox (thread : Thread) : Mailbox :=
  ⟨thread.signals, thread.pendingCapacity⟩

/-- The mailboxes by the identities of their threads. -/
abbrev Mailboxes := ThreadId → Option Mailbox

/-- To replace a thread's signals by what they are changes nothing. -/
theorem Mailboxes.update_signals_self {v : Mailboxes} {id : ThreadId} {box : Mailbox}
    (h : v id = some box) :
    Function.update v id (some { box with signals := box.signals }) = v :=
  Function.update_eq_self_iff.2 h.symm

namespace Scheduler

/-- The mailboxes of all threads. -/
def mailboxes (scheduler : Scheduler) : Mailboxes :=
  fun id ↦ (scheduler.threads.find? id).map Thread.mailbox

variable {scheduler after : Scheduler}

theorem mailboxes_of_threads (h : after.threads = scheduler.threads) :
    after.mailboxes = scheduler.mailboxes := by
  unfold mailboxes
  rw [h]

/-- Changing what is not in a thread's mailbox changes no mailbox. -/
theorem mailboxes_modifyThread (scheduler : Scheduler) (id : ThreadId) {change : Thread → Thread}
    (hid : ∀ thread, (change thread).id = thread.id)
    (hchange : ∀ thread, (change thread).mailbox = thread.mailbox) :
    (scheduler.modifyThread id change).mailboxes = scheduler.mailboxes := by
  funext other
  unfold mailboxes modifyThread
  rw [ThreadTable.find?_modify scheduler.threads id other hid, Option.map_map]
  refine Option.map_congr fun thread _ ↦ ?_
  simp only [Function.comp_apply]
  split
  · exact hchange thread
  · rfl

theorem mailboxes_lock (scheduler : Scheduler) (id : ThreadId) :
    (scheduler.lock id).mailboxes = scheduler.mailboxes :=
  mailboxes_modifyThread scheduler id (fun _ ↦ rfl) fun _ ↦ rfl

theorem mailboxes_unlock (scheduler : Scheduler) (id : ThreadId) :
    (scheduler.unlock id).mailboxes = scheduler.mailboxes := by
  have hgiven : (scheduler.giveBack id).mailboxes = scheduler.mailboxes :=
    mailboxes_modifyThread scheduler id (fun _ ↦ rfl) fun _ ↦ rfl
  unfold unlock
  split
  · exact (mailboxes_of_threads (threads_preempt _)).trans hgiven
  · exact hgiven

/-- The mailboxes with that of a new thread. An identity that is in use already stays with the
thread that has it. -/
theorem mailboxes_spawn (scheduler : Scheduler) (config : ThreadConfig) :
    (scheduler.spawn config).2.mailboxes = scheduler.mailboxes ∨
      scheduler.mailboxes scheduler.nextId = none ∧
        (scheduler.spawn config).2.mailboxes =
          Function.update scheduler.mailboxes scheduler.nextId
            (some (Thread.ofConfig scheduler.nextId config).mailbox) := by
  let thread := Thread.ofConfig scheduler.nextId config
  have hadded (id : ThreadId) : (scheduler.spawn config).2.mailboxes id =
      (scheduler.mailboxes id).or
        (if scheduler.nextId = id then some thread.mailbox else none) := by
    show ((scheduler.threads.add thread).find? id).map Thread.mailbox = _
    rw [ThreadTable.find?_add, Option.map_or, apply_ite (Option.map Thread.mailbox)]
    rfl
  cases hnext : scheduler.mailboxes scheduler.nextId with
  | some box =>
      refine .inl (funext fun id ↦ ?_)
      rw [hadded]
      split
      · rename_i hid
        rw [← hid, hnext]
        rfl
      · exact Option.or_none
  | none =>
      refine .inr ⟨rfl, funext fun id ↦ ?_⟩
      rw [hadded]
      by_cases hid : scheduler.nextId = id
      · subst hid
        rw [Function.update_self, hnext, if_pos rfl]
        rfl
      · rw [Function.update_of_ne (Ne.symm hid), if_neg hid]
        exact Option.or_none

end Scheduler

namespace Kernel

variable {γ α β : Type}

/-- The mailboxes of all threads. -/
def mailboxes (kernel : Kernel γ) : Mailboxes :=
  kernel.scheduler.mailboxes

/-- The same mailboxes and the same client. -/
structure Alike (kernel after : Kernel γ) : Prop where
  mailboxes : after.mailboxes = kernel.mailboxes
  client : after.client = kernel.client

theorem Alike.refl (kernel : Kernel γ) : Alike kernel kernel :=
  ⟨rfl, rfl⟩

theorem Alike.trans {first second third : Kernel γ} (h : Alike first second)
    (h' : Alike second third) : Alike first third :=
  ⟨h'.mailboxes.trans h.mailboxes, h'.client.trans h.client⟩

/-- The same mailboxes, the same client and the same turns. -/
structure Rests (kernel after : Kernel γ) : Prop extends Alike kernel after where
  turns : kernel.scheduler.SameTurns after.scheduler

theorem Rests.refl (kernel : Kernel γ) : Rests kernel kernel :=
  ⟨.refl kernel, .refl _⟩

theorem Rests.trans {first second third : Kernel γ} (h : Rests first second)
    (h' : Rests second third) : Rests first third :=
  ⟨h.toAlike.trans h'.toAlike, h.turns.trans h'.turns⟩

theorem Same.rests {kernel after : Kernel γ} (h : Same kernel after) : Rests kernel after := by
  obtain ⟨hscheduler, hclient⟩ := h
  refine ⟨⟨?_, hclient⟩, ?_⟩
  · rw [mailboxes, hscheduler]
    rfl
  · rw [hscheduler]
    exact .refl _

/-- A thread is read as its mailbox has it. -/
theorem signals_thread {kernel : Kernel γ} {id : ThreadId} {box : Mailbox}
    (h : kernel.mailboxes id = some box) :
    (kernel.thread id).signals = box.signals ∧
      (kernel.thread id).pendingCapacity = box.capacity := by
  obtain ⟨thread, hthread, rfl⟩ := Option.map_eq_some_iff.1 h
  have hget : kernel.thread id = thread := by
    unfold Kernel.thread ThreadTable.get
    rw [hthread]
    rfl
  rw [hget]
  exact ⟨rfl, rfl⟩

/-! ## Running computations -/

theorem run_bind (m : KernelM γ α) (f : α → KernelM γ β) (kernel : Kernel γ) :
    (m >>= f) kernel = f (m kernel).1 (m kernel).2 :=
  rfl

theorem run_pure (a : α) (kernel : Kernel γ) : (pure a : KernelM γ α) kernel = (a, kernel) :=
  rfl

theorem run_get (kernel : Kernel γ) : (get : KernelM γ (Kernel γ)) kernel = (kernel, kernel) :=
  rfl

theorem run_discard (m : KernelM γ α) (kernel : Kernel γ) :
    ((discard m : KernelM γ Unit) kernel).2 = (m kernel).2 :=
  rfl

/-- A critical section runs its body on the same scheduler. -/
theorem run_critical (body : KernelM γ α) (kernel : Kernel γ) :
    ∃ entered, Same kernel entered ∧ (critical body kernel).1 = (body entered).1 ∧
      Same (body entered).2 (critical body kernel).2 :=
  ⟨(enter kernel).2, ⟨rfl, rfl⟩, rfl, ⟨rfl, rfl⟩⟩

/-- Reading signals changes nothing. -/
theorem same_readSignals (id : ThreadId) (f : SignalState → α) (kernel : Kernel γ) :
    Same kernel (readSignals id f kernel).2 :=
  ⟨rfl, rfl⟩

/-- Reading signals tells what the mailbox says. -/
theorem run_readSignals (id : ThreadId) (f : SignalState → α) (kernel : Kernel γ) :
    (readSignals id f kernel).1 = f (kernel.thread id).signals ∧
      Alike kernel (readSignals id f kernel).2 :=
  ⟨rfl, ⟨rfl, rfl⟩⟩

/-- Changing one thread changes its mailbox and no other. -/
theorem mailboxes_modifyThread {kernel : Kernel γ} {id : ThreadId} {box : Mailbox}
    {change : Thread → Thread} {f : Mailbox → Mailbox} (hbox : kernel.mailboxes id = some box)
    (hid : ∀ thread, (change thread).id = thread.id)
    (hchange : ∀ thread, (change thread).mailbox = f thread.mailbox) :
    (modifyThread id change kernel).2.mailboxes =
      Function.update kernel.mailboxes id (some (f box)) := by
  funext other
  have hfind := ThreadTable.find?_modify kernel.scheduler.threads id other hid
  show ((kernel.scheduler.threads.modify id change).find? other).map Thread.mailbox = _
  rw [hfind, Option.map_map]
  by_cases hother : other = id
  · subst hother
    obtain ⟨thread, hthread, rfl⟩ := Option.map_eq_some_iff.1 hbox
    rw [Function.update_self, hthread]
    simp [hchange]
  · rw [Function.update_of_ne hother]
    simp only [if_neg hother]
    rfl

/-- Changing what is not in a thread's mailbox leads to a kernel alike. -/
theorem alike_modifyThread (kernel : Kernel γ) (id : ThreadId) {change : Thread → Thread}
    (hid : ∀ thread, (change thread).id = thread.id)
    (hchange : ∀ thread, (change thread).mailbox = thread.mailbox) :
    Alike kernel (modifyThread id change kernel).2 :=
  ⟨kernel.scheduler.mailboxes_modifyThread id hid hchange, rfl⟩

/-- Changing signals changes the mailbox of the thread and no other. -/
theorem run_withSignals {kernel : Kernel γ} {id : ThreadId} {box : Mailbox}
    (hbox : kernel.mailboxes id = some box) (f : SignalState → α × SignalState) :
    (withSignals id f kernel).1 = (f box.signals).1 ∧
      (withSignals id f kernel).2.client = kernel.client ∧
      (withSignals id f kernel).2.mailboxes =
        Function.update kernel.mailboxes id (some { box with signals := (f box.signals).2 }) := by
  have hsignals := (signals_thread hbox).1
  have hentered : (enter kernel).2.mailboxes id = some box := hbox
  rw [← hsignals]
  refine ⟨rfl, rfl, ?_⟩
  exact mailboxes_modifyThread (f := fun box ↦
    { box with signals := (f (kernel.thread id).signals).2 }) hentered (fun _ ↦ rfl) fun _ ↦ rfl

/-- Changing signals changes no turn. -/
theorem turns_withSignals (id : ThreadId) (f : SignalState → α × SignalState) (kernel : Kernel γ) :
    kernel.scheduler.SameTurns (withSignals id f kernel).2.scheduler :=
  Scheduler.sameTurns_modifyThread kernel.scheduler id fun _ ↦ rfl

/-! ## Operations that leave mailboxes alone -/

theorem alike_notify (notice : Notice) (kernel : Kernel γ) :
    Alike kernel (notify notice kernel).2 :=
  (same_notify notice kernel).rests.toAlike

theorem alike_withScheduler {f : Scheduler → α × Scheduler}
    (hf : ∀ scheduler, (f scheduler).2.threads = scheduler.threads) (kernel : Kernel γ) :
    Alike kernel (withScheduler f kernel).2 :=
  ⟨Scheduler.mailboxes_of_threads (hf kernel.scheduler), rfl⟩

theorem same_readScheduler (f : Scheduler → α) (kernel : Kernel γ) :
    Same kernel (readScheduler f kernel).2 :=
  ⟨rfl, rfl⟩

theorem alike_readScheduler (f : Scheduler → α) (kernel : Kernel γ) :
    Alike kernel (readScheduler f kernel).2 :=
  ⟨rfl, rfl⟩

theorem alike_notifySwitch (switch : Option Switch) (kernel : Kernel γ) :
    Alike kernel (notifySwitch switch kernel).2 :=
  (same_notifySwitch switch kernel).rests.toAlike

theorem alike_setCurrent (id : ThreadId) (kernel : Kernel γ) :
    Alike kernel (setCurrent id kernel).2 :=
  alike_withScheduler (fun scheduler ↦ scheduler.threads_setCurrent id) kernel

theorem alike_schedule (kernel : Kernel γ) : Alike kernel (schedule kernel).2 :=
  (alike_withScheduler Scheduler.threads_rotate kernel).trans (alike_notifySwitch _ _)

theorem alike_preemptionPoint (kernel : Kernel γ) : Alike kernel (preemptionPoint kernel).2 :=
  (alike_withScheduler Scheduler.threads_preempt kernel).trans (alike_notifySwitch _ _)

theorem alike_lockScheduler (id : ThreadId) (kernel : Kernel γ) :
    Alike kernel (lockScheduler id kernel).2 :=
  ⟨kernel.scheduler.mailboxes_lock id, rfl⟩

theorem alike_unlockScheduler (id : ThreadId) (kernel : Kernel γ) :
    Alike kernel (unlockScheduler id kernel).2 := by
  obtain ⟨hscheduler, hclient⟩ := run_unlockScheduler id kernel
  refine ⟨?_, hclient⟩
  rw [mailboxes, hscheduler]
  exact kernel.scheduler.mailboxes_unlock id

/-- Writing an error cell changes no mailbox and no turn. -/
theorem rests_setErrno (id : ThreadId) (code : Errno) (kernel : Kernel γ) :
    Rests kernel (modifyThread id (fun thread ↦ { thread with errno := code }) kernel).2 :=
  ⟨alike_modifyThread kernel id (fun _ ↦ rfl) fun _ ↦ rfl,
    Scheduler.sameTurns_modifyThread kernel.scheduler id fun _ ↦ rfl⟩

theorem rests_storeErrno {ε : Type} (id : ThreadId) (errno : ε → Errno) (outcome : Except ε α)
    (kernel : Kernel γ) : Rests kernel (storeErrno id errno outcome kernel).2 := by
  cases outcome with
  | ok _ => exact .refl kernel
  | error error => exact rests_setErrno id (errno error) kernel

/-! ## Operations on mailboxes -/

/-- The mailboxes with that of a new thread, unless its identity is in use already. -/
theorem mailboxes_spawn (config : ThreadConfig) (kernel : Kernel γ) :
    (spawn config kernel).2.client = kernel.client ∧
      ((spawn config kernel).2.mailboxes = kernel.mailboxes ∨
        kernel.mailboxes kernel.scheduler.nextId = none ∧
          (spawn config kernel).2.mailboxes =
            Function.update kernel.mailboxes kernel.scheduler.nextId
              (some (Thread.ofConfig kernel.scheduler.nextId config).mailbox)) := by
  refine ⟨(same_notify _ _).client, ?_⟩
  unfold mailboxes
  rw [scheduler_spawn]
  exact kernel.scheduler.mailboxes_spawn config

section Post

variable {sink : Sink γ} {kernel : Kernel γ} {id : ThreadId} {box : Mailbox} {o : Occurrence}

/-- An occurrence of no signal is refused. -/
theorem post_of_invalid (h : Signal.isValid o.signal = false) :
    post sink id o kernel = (.error .invalidSignal, kernel) := by
  unfold post
  rw [h]
  rfl

/-- A post ends as the target's signals decide. -/
theorem post_outcome (hbox : kernel.mailboxes id = some box) (h : Signal.isValid o.signal) :
    (post sink id o kernel).1 = (box.signals.receive o).1 := by
  have houtcome := (run_withSignals hbox (·.receive o)).1
  unfold post
  rw [h, Bool.not_true, if_neg Bool.false_ne_true, run_bind, houtcome]
  cases (box.signals.receive o).1 with
  | error error => rfl
  | ok fate => cases fate <;> rfl

/-- All else that a post does is to log, if the occurrence is not delivered at once. -/
theorem same_post (sink : Sink γ) (hbox : kernel.mailboxes id = some box)
    (h : Signal.isValid o.signal) (hfate : (box.signals.receive o).1 ≠ .ok .delivered) :
    Same (withSignals id (·.receive o) kernel).2 (post sink id o kernel).2 := by
  have houtcome := (run_withSignals hbox (·.receive o)).1
  unfold post
  rw [h, Bool.not_true, if_neg Bool.false_ne_true, run_bind, houtcome]
  cases hreceive : (box.signals.receive o).1 with
  | error error => exact .refl _
  | ok fate =>
      cases fate with
      | delivered => exact absurd hreceive hfate
      | queued => exact same_notify (.queued o.signal id) _
      | coalesced => exact same_notify (.coalesced o.signal id) _

/-- An occurrence that is not delivered at once goes into the mailbox, or nowhere. -/
theorem post_of_ne_delivered (sink : Sink γ) (hbox : kernel.mailboxes id = some box)
    (h : Signal.isValid o.signal) (hfate : (box.signals.receive o).1 ≠ .ok .delivered) :
    (post sink id o kernel).2.client = kernel.client ∧
      (post sink id o kernel).2.mailboxes =
        Function.update kernel.mailboxes id
          (some { box with signals := (box.signals.receive o).2 }) ∧
      kernel.scheduler.SameTurns (post sink id o kernel).2.scheduler := by
  obtain ⟨-, hclient, hmailboxes⟩ := run_withSignals hbox (·.receive o)
  obtain ⟨⟨hsame, hkept⟩, hturns⟩ := (same_post sink hbox h hfate).rests
  exact ⟨hkept.trans hclient, hsame.trans hmailboxes, (turns_withSignals id _ kernel).trans hturns⟩

/-- An occurrence that is delivered at once goes to the sink, once its target was looked at. -/
theorem post_of_open (hbox : kernel.mailboxes id = some box) (h : Signal.isValid o.signal)
    (hfate : (box.signals.receive o).1 = .ok .delivered) :
    ∃ handed, Same (withSignals id (·.receive o) kernel).2 handed ∧ ∀ sink : Sink γ,
      post sink id o kernel = (.ok .delivered, (sink id .immediate o handed).2) := by
  have houtcome := (run_withSignals hbox (·.receive o)).1
  refine ⟨_, same_notify (.delivering o.signal id) _, fun sink ↦ ?_⟩
  unfold post
  rw [h, Bool.not_true, if_neg Bool.false_ne_true, run_bind, houtcome, hfate]
  rfl

/-- An occurrence that is delivered at once goes to the sink, and that is all. -/
theorem post_of_delivered (hbox : kernel.mailboxes id = some box)
    (h : Signal.isValid o.signal) (hfate : (box.signals.receive o).1 = .ok .delivered) :
    ∃ handed, Rests kernel handed ∧ ∀ sink : Sink γ,
      post sink id o kernel = (.ok .delivered, (sink id .immediate o handed).2) := by
  obtain ⟨handed, hhanded, hrun⟩ := post_of_open hbox h hfate
  obtain ⟨-, hclient, hmailboxes⟩ := run_withSignals hbox (·.receive o)
  have hkept := SignalState.receive_of_ne_queued (s := box.signals) (o := o) (by simp [hfate])
  have hbefore : Rests kernel (withSignals id (·.receive o) kernel).2 := by
    refine ⟨⟨?_, hclient⟩, turns_withSignals id _ kernel⟩
    rw [hmailboxes, hkept]
    exact Mailboxes.update_signals_self hbox
  exact ⟨handed, hbefore.trans hhanded.rests, hrun⟩

end Post

/-! ## Finding threads -/

/-- A thread is found under its own identity, and its mailbox with it. -/
theorem mailboxes_of_find? {kernel : Kernel γ} {id : ThreadId} {thread : Thread}
    (h : kernel.scheduler.threads.find? id = some thread) :
    thread.id = id ∧ kernel.mailboxes id = some thread.mailbox := by
  have hid := List.find?_some h
  exact ⟨beq_iff_eq.1 hid, congrArg (Option.map Thread.mailbox) h⟩

theorem mailboxes_eq_none_iff {kernel : Kernel γ} {id : ThreadId} :
    kernel.mailboxes id = none ↔ kernel.scheduler.threads.find? id = none :=
  Option.map_eq_none_iff

/-- The running thread is one of the threads. -/
theorem find?_currentThread (kernel : Kernel γ) :
    kernel.scheduler.threads.find? kernel.scheduler.currentThread.id =
      some kernel.scheduler.currentThread := by
  unfold Scheduler.currentThread ThreadTable.get
  cases hfind : kernel.scheduler.threads.find? kernel.scheduler.current with
  | none =>
      -- the idle thread runs, and it is the first one to be looked at
      simp [ThreadTable.find?, ThreadTable.toList]
  | some thread =>
      rw [Option.getD_some, (mailboxes_of_find? hfind).1]
      exact hfind

theorem mailboxes_current (kernel : Kernel γ) :
    ∃ box, kernel.mailboxes (current kernel).1.id = some box :=
  ⟨_, (mailboxes_of_find? (find?_currentThread kernel)).2⟩

/-- What sending to a thread comes to. -/
inductive Sent (sink : Sink γ) (id : ThreadId) (o : Occurrence) (kernel : Kernel γ) :
    Except SignalError (Option Fate) → Kernel γ → Prop
  /-- There is no such thread. -/
  | lost {after} (hnone : kernel.mailboxes id = none) (hrests : Rests kernel after) :
      Sent sink id o kernel (.error .noSuchThread) after
  /-- Signal 0 only tests that the thread exists. -/
  | tested {after} {box : Mailbox} (hbox : kernel.mailboxes id = some box) (hzero : o.signal = 0)
      (hrests : Rests kernel after) : Sent sink id o kernel (.ok none) after
  /-- The occurrence is posted. -/
  | posted {found after} {box : Mailbox} (hbox : kernel.mailboxes id = some box)
      (hzero : o.signal ≠ 0) (hbefore : Rests kernel found)
      (hrests : Rests (post sink id o found).2 after) :
      Sent sink id o kernel ((post sink id o found).1.map some) after

theorem Sent.rests {sink : Sink γ} {id : ThreadId} {o : Occurrence}
    {kernel before after last : Kernel γ} {outcome : Except SignalError (Option Fate)}
    (h : Sent sink id o before outcome after)
    (hbefore : Rests kernel before) (hafter : Rests after last) :
    Sent sink id o kernel outcome last := by
  have hmailboxes := congrFun hbefore.mailboxes id
  cases h with
  | lost hnone hrests =>
      rw [hmailboxes] at hnone
      exact .lost hnone ((hbefore.trans hrests).trans hafter)
  | tested hbox hzero hrests =>
      rw [hmailboxes] at hbox
      exact .tested hbox hzero ((hbefore.trans hrests).trans hafter)
  | posted hbox hzero hfound hrests =>
      rw [hmailboxes] at hbox
      exact .posted hbox hzero (hbefore.trans hfound) (hrests.trans hafter)

section Sent

variable {sink : Sink γ} {id : ThreadId} {o : Occurrence} {kernel after : Kernel γ}
  {outcome : Except SignalError (Option Fate)} (h : Sent sink id o kernel outcome after)
include h

theorem Sent.of_none (hnone : kernel.mailboxes id = none) :
    outcome = .error .noSuchThread ∧ Rests kernel after := by
  cases h with
  | lost _ hrests => exact ⟨rfl, hrests⟩
  | tested hbox hzero hrests =>
      rw [hnone] at hbox
      cases hbox
  | posted hbox hzero hbefore hrests =>
      rw [hnone] at hbox
      cases hbox

theorem Sent.of_zero {box : Mailbox} (hbox : kernel.mailboxes id = some box)
    (hzero : o.signal = 0) : outcome = .ok none ∧ Rests kernel after := by
  cases h with
  | lost hnone hrests =>
      rw [hbox] at hnone
      cases hnone
  | tested _ _ hrests => exact ⟨rfl, hrests⟩
  | posted _ hne hbefore hrests => exact absurd hzero hne

theorem Sent.of_some {box : Mailbox} (hbox : kernel.mailboxes id = some box)
    (hzero : o.signal ≠ 0) :
    ∃ found, Rests kernel found ∧ outcome = (post sink id o found).1.map some ∧
      Rests (post sink id o found).2 after := by
  cases h with
  | lost hnone hrests =>
      rw [hbox] at hnone
      cases hnone
  | tested _ htested hrests => exact absurd htested hzero
  | posted _ _ hbefore hrests => exact ⟨_, hbefore, rfl, hrests⟩

end Sent

theorem run_postTo (sink : Sink γ) (id : ThreadId) (o : Occurrence) (kernel : Kernel γ) :
    Sent sink id o kernel (postTo sink id o kernel).1 (postTo sink id o kernel).2 := by
  have hread : Rests kernel (find? id kernel).2 := (same_readScheduler _ kernel).rests
  have hfound : (find? id kernel).1 = kernel.scheduler.threads.find? id := rfl
  unfold postTo
  rw [run_bind, hfound]
  cases hfind : kernel.scheduler.threads.find? id with
  | none =>
      exact .lost (mailboxes_eq_none_iff.2 hfind)
        (hread.trans (same_notify (.targetUnknown id) _).rests)
  | some target =>
      obtain ⟨hid, hbox⟩ := mailboxes_of_find? hfind
      simp only [hid]
      by_cases hzero : o.signal = 0
      · simp only [if_pos hzero]
        exact .tested hbox hzero hread
      · simp only [if_neg hzero]
        rw [run_bind]
        have hposted : Sent sink id o kernel _ _ := .posted hbox hzero hread
          (.refl (post sink id o (find? id kernel).2).2)
        cases houtcome : (post sink id o (find? id kernel).2).1 with
        | ok fate =>
            rw [houtcome] at hposted
            exact hposted
        | error error =>
            rw [houtcome] at hposted
            exact hposted.rests (.refl _) (same_notify (.postRefused o.signal id error) _).rests

/-- Sending acts for the thread that runs when the call is made. -/
theorem run_send (sink : Sink γ) (id : ThreadId) (occurrence : ThreadId → Occurrence)
    (kernel : Kernel γ) :
    Sent sink id (occurrence (current kernel).1.id) kernel (send sink id occurrence kernel).1
      (send sink id occurrence kernel).2 := by
  have hread : Rests kernel (current kernel).2 := (same_readScheduler _ kernel).rests
  have hposted := run_postTo sink id (occurrence (current kernel).1.id) (current kernel).2
  simp only [send, run_bind, run_pure]
  exact hposted.rests hread (rests_storeErrno _ SignalError.errno _ _)

section Valid

variable {kernel : Kernel γ} {id : ThreadId} {thread : Thread} {occurrence : ThreadId → Occurrence}
  (hthread : kernel.scheduler.threads.find? id = some thread)
  (hvalid : Signal.isValid (occurrence kernel.scheduler.currentThread.id).signal)
include hthread hvalid

/-- Sending to a thread ends as the thread's signals decide. -/
theorem send_outcome (sink : Sink γ) :
    (send sink id occurrence kernel).1 =
      (thread.signals.receive (occurrence kernel.scheduler.currentThread.id)).1.map some := by
  have hbox := (mailboxes_of_find? hthread).2
  have hzero := Nat.ne_of_gt (Signal.isValid_iff.1 hvalid).1
  obtain ⟨found, hfound, houtcome, -⟩ := (run_send sink id occurrence kernel).of_some hbox hzero
  rw [← congrFun hfound.mailboxes id] at hbox
  have hposted : (post sink id _ found).1 = _ := post_outcome hbox hvalid
  exact houtcome.trans (congrArg (Except.map some) hposted)

/-- To send an occurrence that is accepted is to post it, and that is all. -/
theorem send_of_ok :
    ∃ found, Same kernel found ∧ ∀ (sink : Sink γ) (fate : Fate),
      (post sink id (occurrence kernel.scheduler.currentThread.id) found).1 = .ok fate →
        send sink id occurrence kernel = (.ok (some fate),
          (post sink id (occurrence kernel.scheduler.currentThread.id) found).2) := by
  let o := occurrence kernel.scheduler.currentThread.id
  let found := (find? id (current kernel).2).2
  refine ⟨found, (same_readScheduler _ kernel).trans (same_readScheduler _ _),
    fun sink fate hfate ↦ ?_⟩
  have hid := (mailboxes_of_find? hthread).1
  have hzero : o.signal ≠ 0 := Nat.ne_of_gt (Signal.isValid_iff.1 hvalid).1
  have hposted : postTo sink id o (current kernel).2 =
      (.ok (some fate), (post sink id o found).2) := by
    have hread : (find? id (current kernel).2).1 = some thread := hthread
    unfold postTo
    rw [run_bind, hread]
    simp only [hid, if_neg hzero]
    rw [run_bind, hfate]
    rfl
  simp only [send, run_bind, run_pure]
  show ((postTo sink id o (current kernel).2).1,
    (storeErrno _ SignalError.errno (postTo sink id o (current kernel).2).1
      (postTo sink id o (current kernel).2).2).2) = _
  rw [hposted]
  rfl

/-- What is sent and delivered at once goes to the sink, and that is all. -/
theorem send_of_delivered
    (hfate : (thread.signals.receive (occurrence kernel.scheduler.currentThread.id)).1 =
      .ok .delivered) :
    ∃ handed, Rests kernel handed ∧ ∀ sink : Sink γ,
      send sink id occurrence kernel = (.ok (some .delivered),
        (sink id .immediate (occurrence kernel.scheduler.currentThread.id) handed).2) := by
  obtain ⟨found, hfound, hsend⟩ := send_of_ok hthread hvalid
  have hbox : found.mailboxes id = some thread.mailbox :=
    (congrFun hfound.rests.mailboxes id).trans (mailboxes_of_find? hthread).2
  obtain ⟨handed, hhanded, hpost⟩ := post_of_delivered hbox hvalid hfate
  refine ⟨handed, hfound.rests.trans hhanded, fun sink ↦ ?_⟩
  rw [hsend sink .delivered (congrArg Prod.fst (hpost sink)), hpost]

end Valid

end Kernel

end SignalKernel
