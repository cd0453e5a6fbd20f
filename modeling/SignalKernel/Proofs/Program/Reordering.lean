import SignalKernel.Proofs.Kernel.Resemblance
import SignalKernel.Proofs.Program.Reaching
import SignalKernel.Proofs.Signals.Gathering

/-!
# Posts in another order

Posts of signals that a thread blocks may come in any order, as long as those of each signal stay in
order. The records then lie in other slots and have other successors, but nothing that can be
observed depends on that. The main theorem, `posts_in_any_order`, says so for every thread at every
point of every run: if no post is refused in one order, none is in the other, and then the pending
signals and their records are the same, and so is whatever is done afterwards, in particular what
changes of masks hand over. Each post is one step on the thread's signals, so that a sequence of
posts is a sequence of `SignalState.receive`; from there on the two runs are kernels that resemble
each other.
-/

namespace SignalKernel

/-- The thread with other signals. -/
def Thread.refill (signals : SignalState) (thread : Thread) : Thread :=
  { thread with signals }

theorem Thread.id_refill (signals : SignalState) (thread : Thread) :
    (thread.refill signals).id = thread.id :=
  rfl

/-- What a thread blocks stays blocked when it receives something. -/
theorem Thread.blocked_refill_receive {thread : Thread} {os : List Occurrence}
    (h : ∀ o ∈ os, o.signal ∈ thread.signals.blocked) (received : Occurrence) :
    ∀ o ∈ os, o.signal ∈ (thread.refill (thread.signals.receive received).2).signals.blocked := by
  intro o ho
  show o.signal ∈ (thread.signals.receive received).2.blocked
  rw [SignalState.blocked_receive]
  exact h o ho

namespace Kernel

variable {γ : Type}

/-! ## Making posts -/

/-- One way to post an occurrence to a thread. -/
inductive Posting where
  /-- The kernel posts it. -/
  | post (o : Occurrence)
  /-- An interrupt handler posts it. -/
  | interrupt (o : Occurrence)
  /-- The running thread sends it. -/
  | send (occurrence : ThreadId → Occurrence)

namespace Posting

/-- What is posted while a thread runs. -/
def occurrence (running : ThreadId) : Posting → Occurrence
  | post o => o
  | interrupt o => o
  | send occurrence => occurrence running

/-- Post to a thread. -/
def make (sink : Sink γ) (id : ThreadId) : Posting → KernelM γ (Except SignalError (Option Fate))
  | post o => do
      let outcome ← Kernel.post sink id o
      pure (outcome.map some)
  | interrupt o => asInterrupt do
      let outcome ← Kernel.post sink id o
      pure (outcome.map some)
  | send occurrence => Kernel.send sink id occurrence

/-- Post to a thread several times. The result is how each post ended. -/
def makeAll (sink : Sink γ) (id : ThreadId) (postings : List Posting) :
    KernelM γ (List (Except SignalError (Option Fate))) :=
  postings.mapM (make sink id)

end Posting

/-- No post failed. -/
def AllAccepted (outcomes : List (Except SignalError (Option Fate))) : Prop :=
  ∀ outcome ∈ outcomes, ∃ fate, outcome = .ok fate

/-- An interrupt handler's work is done with interrupts masked, and that is all. -/
theorem run_asInterrupt {α : Type} (body : KernelM γ α) (kernel : Kernel γ) :
    ∃ masked, Same kernel masked ∧ (asInterrupt body kernel).1 = (body masked).1 ∧
      Same (body masked).2 (asInterrupt body kernel).2 :=
  ⟨interrupts.set (InterruptControl.save (interrupts.get kernel)).2 kernel, ⟨rfl, rfl⟩, rfl,
    ⟨rfl, rfl⟩⟩

/-- A thread has other signals, and nothing else has changed. -/
structure Refilled (id : ThreadId) (signals : SignalState) (kernel after : Kernel γ) : Prop where
  scheduler : after.scheduler = kernel.scheduler.modifyThread id (Thread.refill signals)
  client : after.client = kernel.client

section Refilled

variable {id : ThreadId} {signals signals' : SignalState} {kernel after after' : Kernel γ}

theorem Refilled.same (h : Refilled id signals kernel after) (hsame : Same after after') :
    Refilled id signals kernel after' :=
  ⟨hsame.scheduler.trans h.scheduler, hsame.client.trans h.client⟩

theorem Refilled.of_same (hsame : Same kernel after) (h : Refilled id signals after after') :
    Refilled id signals kernel after' := by
  obtain ⟨hscheduler, hclient⟩ := h
  rw [hsame.scheduler] at hscheduler
  exact ⟨hscheduler, hclient.trans hsame.client⟩

/-- Only the last signals count. -/
theorem Refilled.trans (h : Refilled id signals kernel after)
    (h' : Refilled id signals' after after') : Refilled id signals' kernel after' := by
  refine ⟨?_, h'.client.trans h.client⟩
  have htwice := kernel.scheduler.threads.modify_modify id (Thread.id_refill signals)
    (Thread.refill signals')
  rw [h'.scheduler, h.scheduler]
  exact congrArg (fun threads ↦ { kernel.scheduler with threads }) htwice

theorem Refilled.find? {thread : Thread} (h : Refilled id signals kernel after)
    (hthread : kernel.scheduler.threads.find? id = some thread) :
    after.scheduler.threads.find? id = some (thread.refill signals) := by
  have hfound := kernel.scheduler.threads.find?_modify id id (Thread.id_refill signals)
  rw [hthread, Option.map_some, if_pos rfl] at hfound
  rw [h.scheduler]
  exact hfound

/-- The same thread runs. -/
theorem Refilled.running (h : Refilled id signals kernel after) :
    after.scheduler.currentThread.id = kernel.scheduler.currentThread.id := by
  rw [h.scheduler]
  exact kernel.scheduler.threads.id_get_modify id kernel.scheduler.current
    (Thread.id_refill signals)

/-- If two signals cannot be told apart, nor can kernels in which a thread has one or the other. -/
theorem Refilled.resembles (h : Refilled id signals kernel after)
    (h' : Refilled id signals' kernel after') (hsignals : signals.Indistinct signals') :
    after.Resembles after' := by
  constructor
  · rw [h.scheduler, h'.scheduler]
    exact (Scheduler.Resembles.refl _).modifyThread id fun hthread ↦
      { hthread with signals := hsignals }
  · rw [h.client, h'.client]

end Refilled

/-! ## Posts of blocked signals -/

section Blocked

variable {id : ThreadId} {kernel : Kernel γ} {thread : Thread}
  (hthread : kernel.scheduler.threads.find? id = some thread)
include hthread

/-- A post of a blocked signal is one step on the thread's signals. -/
theorem refilled_post (sink : Sink γ) {o : Occurrence}
    (hblocked : o.signal ∈ thread.signals.blocked) :
    (post sink id o kernel).1 = (thread.signals.receive o).1 ∧
      Refilled id (thread.signals.receive o).2 kernel (post sink id o kernel).2 := by
  have hvalid := SignalSet.isValid_of_mem hblocked
  have hbox := (mailboxes_of_find? hthread).2
  have hqueued : (thread.signals.receive o).1 ≠ .ok .delivered := fun hdelivered ↦
    SignalState.not_blocked_of_delivered hdelivered hblocked
  have hreceived : Refilled id (thread.signals.receive o).2 kernel
      (withSignals id (·.receive o) kernel).2 := by
    have hsignals : (kernel.thread id).signals = thread.signals := (signals_thread hbox).1
    rw [← hsignals]
    exact ⟨rfl, rfl⟩
  have houtcome : (post sink id o kernel).1 = _ := post_outcome hbox hvalid
  exact ⟨houtcome, hreceived.same (same_post sink hbox hvalid hqueued)⟩

/-- So is every way to make one. -/
theorem refilled_make (sink : Sink γ) {running : ThreadId}
    (hrunning : kernel.scheduler.currentThread.id = running) (posting : Posting)
    (hblocked : (posting.occurrence running).signal ∈ thread.signals.blocked) :
    (posting.make sink id kernel).1 =
        (thread.signals.receive (posting.occurrence running)).1.map some ∧
      ((∃ fate, (thread.signals.receive (posting.occurrence running)).1 = .ok fate) →
        Refilled id (thread.signals.receive (posting.occurrence running)).2 kernel
          (posting.make sink id kernel).2) := by
  cases posting with
  | post o =>
      obtain ⟨houtcome, hrefilled⟩ := refilled_post hthread sink hblocked
      exact ⟨congrArg (Except.map some) houtcome, fun _ ↦ hrefilled⟩
  | interrupt o =>
      let body : KernelM γ (Except SignalError (Option Fate)) := do
        let outcome ← post sink id o
        pure (outcome.map some)
      obtain ⟨masked, hmasked, houtcome, hafter⟩ := run_asInterrupt body kernel
      rw [← hmasked.scheduler] at hthread
      obtain ⟨hposted, hrefilled⟩ := refilled_post hthread sink hblocked
      refine ⟨houtcome.trans (congrArg (Except.map some) hposted), fun _ ↦ ?_⟩
      exact (hrefilled.same hafter).of_same hmasked
  | send occurrence =>
      subst hrunning
      have hvalid := SignalSet.isValid_of_mem hblocked
      refine ⟨send_outcome hthread hvalid sink, fun ⟨fate, hfate⟩ ↦ ?_⟩
      obtain ⟨found, hfound, hsend⟩ := send_of_ok hthread hvalid
      rw [← hfound.scheduler] at hthread
      obtain ⟨hposted, hrefilled⟩ := refilled_post hthread sink hblocked
      -- an accepted post writes no error cell, so that only the signals are left to compare
      have hsent : send sink id occurrence kernel = _ := hsend sink fate (hposted.trans hfate)
      show Refilled id _ kernel (send sink id occurrence kernel).2
      rw [hsent]
      exact hrefilled.of_same hfound

end Blocked

/-! ## What can be observed afterwards -/

/-- A sink that keeps what it is handed. -/
def collector : Sink (List Occurrence) :=
  fun _ _ o ↦ modify fun kernel ↦ { kernel with client := kernel.client ++ [o] }

/-- What a change of a thread's mask hands over, if nothing that is delivered makes calls of its
own. -/
def handedOver (kernel : Kernel γ) (id : ThreadId) (how : Int) (set : Option SignalSet) :
    List Occurrence :=
  (changeMask collector id how set { kernel with client := [] }).2.client

/-- A thread's signals after posts in one order and in another, and what follows. -/
structure PostedAlike (id : ThreadId) (kernel kernel' : Kernel γ) : Prop where
  /-- The same signals are pending, with as many records, and these are the same. -/
  signals : ∃ thread thread', kernel.scheduler.threads.find? id = some thread ∧
    kernel'.scheduler.threads.find? id = some thread' ∧
    thread.signals.pending = thread'.signals.pending ∧
    ∀ signal, thread.signals.queue.count signal = thread'.signals.queue.count signal ∧
      thread.signals.records signal = thread'.signals.records signal
  /-- Any change of a mask hands over the same occurrences in the same order. -/
  handedOver : ∀ caller how set,
    kernel.handedOver caller how set = kernel'.handedOver caller how set
  /-- Whatever operations follow, they have the same results and leave the same client, and signals
  that cannot be told apart. -/
  following : ∀ {α : Type} {work : Sink γ → KernelM γ α}, Work γ work →
    ∀ {sink : Sink γ} {told : γ → ThreadId → Timing → Occurrence → γ}, Sink.Passive sink told →
      (work sink kernel).1 = (work sink kernel').1 ∧
        (work sink kernel).2.Resembles (work sink kernel').2

theorem passive_collector : Sink.Passive collector fun collected _ _ o ↦ collected ++ [o] :=
  fun _ _ _ _ ↦ ⟨rfl, rfl⟩

theorem Resembles.handedOver {kernel kernel' : Kernel γ} (h : kernel.Resembles kernel')
    (id : ThreadId) (how : Int) (set : Option SignalSet) :
    kernel.handedOver id how set = kernel'.handedOver id how set := by
  have hcollecting : Resembles { kernel with client := ([] : List Occurrence) }
      { kernel' with client := [] } := ⟨h.scheduler, rfl⟩
  have hchange : Work (List Occurrence) fun sink ↦ changeMask sink id how set :=
    .operation (.changeMask id how set)
  exact (hchange.similar passive_collector hcollecting).2.client

theorem Resembles.postedAlike {kernel kernel' : Kernel γ} (h : kernel.Resembles kernel')
    {id : ThreadId} {thread : Thread} (hthread : kernel.scheduler.threads.find? id = some thread) :
    PostedAlike id kernel kernel' := by
  refine ⟨?_, h.handedOver, fun hwork _ _ hsink ↦ hwork.similar hsink h⟩
  have hfound := h.scheduler.threads.find? id
  rw [hthread] at hfound
  generalize kernel'.scheduler.threads.find? id = found' at hfound
  cases hfound with
  | some hsame =>
      refine ⟨_, _, hthread, rfl, hsame.signals.eq SignalState.SameLists.pending, fun signal ↦ ?_⟩
      exact ⟨hsame.signals.eq fun hlists ↦ hlists.count signal,
        hsame.signals.eq fun hlists ↦ hlists.records signal⟩

/-! ## Sequences of posts -/

/-- Several posts are one post and then the others. -/
theorem makeAll_cons (sink : Sink γ) (id : ThreadId) (posting : Posting) (rest : List Posting)
    (kernel : Kernel γ) :
    Posting.makeAll sink id (posting :: rest) kernel =
      ((posting.make sink id kernel).1 ::
          (Posting.makeAll sink id rest (posting.make sink id kernel).2).1,
        (Posting.makeAll sink id rest (posting.make sink id kernel).2).2) := by
  unfold Posting.makeAll
  rw [List.mapM_cons]
  rfl

section Sequences

variable {sink : Sink γ} {id running : ThreadId} {kernel : Kernel γ} {thread : Thread}

/-- As long as the posts are of blocked signals, all of them are accepted exactly if the thread's
signals accept all occurrences. -/
theorem allAccepted_iff (hthread : kernel.scheduler.threads.find? id = some thread)
    (hrunning : kernel.scheduler.currentThread.id = running) (postings : List Posting)
    (hblocked : ∀ o ∈ postings.map (·.occurrence running), o.signal ∈ thread.signals.blocked) :
    AllAccepted (Posting.makeAll sink id postings kernel).1 ↔
      thread.signals.Accepts (postings.map (·.occurrence running)) := by
  induction postings generalizing kernel thread with
  | nil => exact iff_of_true (fun _ houtcome ↦ nomatch houtcome) trivial
  | cons posting rest ih =>
      rw [List.map_cons, List.forall_mem_cons] at hblocked
      obtain ⟨houtcome, hrefilled⟩ := refilled_make hthread sink hrunning posting hblocked.1
      rw [makeAll_cons, AllAccepted, List.forall_mem_cons, houtcome, List.map_cons,
        SignalState.Accepts]
      have haccepted (outcome : Except SignalError Fate) :
          (∃ fate, outcome.map some = .ok fate) ↔ ∃ fate, outcome = .ok fate := by
        cases outcome <;> simp [Except.map]
      rw [haccepted]
      refine and_congr_right fun hfate ↦ ?_
      have hafter := hrefilled hfate
      exact ih (hafter.find? hthread) (hafter.running.trans hrunning)
        (Thread.blocked_refill_receive hblocked.2 _)

/-- Posts of blocked signals that are accepted leave what the thread's signals make of them. -/
theorem refilled_makeAll (hthread : kernel.scheduler.threads.find? id = some thread)
    (hrunning : kernel.scheduler.currentThread.id = running) (posting : Posting)
    (rest : List Posting)
    (hblocked : ∀ o ∈ (posting :: rest).map (·.occurrence running),
      o.signal ∈ thread.signals.blocked)
    (haccepts : thread.signals.Accepts ((posting :: rest).map (·.occurrence running))) :
    Refilled id (thread.signals.receiveAll ((posting :: rest).map (·.occurrence running))) kernel
      (Posting.makeAll sink id (posting :: rest) kernel).2 := by
  induction rest generalizing posting kernel thread with
  | nil =>
      have hlast := hblocked _ List.mem_cons_self
      exact (refilled_make hthread sink hrunning posting hlast).2 haccepts.1
  | cons next rest ih =>
      rw [List.map_cons, List.forall_mem_cons] at hblocked
      obtain ⟨hfate, hrest⟩ := haccepts
      have hafter : Refilled id _ kernel (posting.make sink id kernel).2 :=
        (refilled_make hthread sink hrunning posting hblocked.1).2 hfate
      rw [makeAll_cons]
      exact hafter.trans (ih (hafter.find? hthread) (hafter.running.trans hrunning) next
        (Thread.blocked_refill_receive hblocked.2 _) hrest)

/-- Posts in another order are accepted too, and afterwards nothing tells in which order they
came. -/
theorem postedAlike_makeAll (hthread : kernel.scheduler.threads.find? id = some thread)
    (hrunning : kernel.scheduler.currentThread.id = running) (hq : thread.signals.queue.Sound)
    {postings postings' : List Posting}
    (hsame : SameEach (postings.map (·.occurrence running)) (postings'.map (·.occurrence running)))
    (hblocked : ∀ o ∈ postings.map (·.occurrence running), o.signal ∈ thread.signals.blocked)
    (haccepted : AllAccepted (Posting.makeAll sink id postings kernel).1) :
    AllAccepted (Posting.makeAll sink id postings' kernel).1 ∧
      PostedAlike id (Posting.makeAll sink id postings kernel).2
        (Posting.makeAll sink id postings' kernel).2 := by
  have hblocked' : ∀ o ∈ postings'.map (·.occurrence running),
      o.signal ∈ thread.signals.blocked := fun o ho ↦ hblocked o (hsame.perm.mem_iff.2 ho)
  rw [allAccepted_iff hthread hrunning postings hblocked] at haccepted
  rw [allAccepted_iff hthread hrunning postings' hblocked']
  obtain ⟨haccepts, hlists⟩ := SignalState.sameLists_receiveAll hq hsame hblocked haccepted
  refine ⟨haccepts, ?_⟩
  have hlength := hsame.perm.length_eq
  rw [List.length_map, List.length_map] at hlength
  -- without posts nothing is written, not even the signals that are there already
  cases postings with
  | nil =>
      obtain rfl := List.length_eq_zero_iff.1 hlength.symm
      have hsame : kernel.Resembles kernel := ⟨.refl _, rfl⟩
      exact hsame.postedAlike hthread
  | cons posting rest =>
      cases postings' with
      | nil => cases hlength
      | cons posting' rest' =>
          have hafter : Refilled id _ kernel (Posting.makeAll sink id _ kernel).2 :=
            refilled_makeAll hthread hrunning posting rest hblocked haccepted
          have hafter' : Refilled id _ kernel (Posting.makeAll sink id _ kernel).2 :=
            refilled_makeAll hthread hrunning posting' rest' hblocked' haccepts
          exact (hafter.resembles hafter' (.inr hlists)).postedAlike (hafter.find? hthread)

end Sequences

end Kernel

namespace Program

open Kernel

/-- The order of posts to a thread of blocked signals makes no difference. -/
def TakesAnyOrder (scheduler : Scheduler) (id : ThreadId) (thread : Thread) : Prop :=
  ∀ {γ : Type} (sink : Sink γ) (kernel : Kernel γ), kernel.scheduler = scheduler →
    ∀ postings postings' : List Posting,
      let posted := postings.map (·.occurrence scheduler.currentThread.id)
      let posted' := postings'.map (·.occurrence scheduler.currentThread.id)
      SameEach posted posted' → (∀ o ∈ posted, o.signal ∈ thread.signals.blocked) →
        AllAccepted (Posting.makeAll sink id postings kernel).1 →
          AllAccepted (Posting.makeAll sink id postings' kernel).1 ∧
            PostedAlike id (Posting.makeAll sink id postings kernel).2
              (Posting.makeAll sink id postings' kernel).2

/-- The order makes no difference to any thread, at every point of a history. -/
def AllTakeAnyOrder (history : List Moment) : Prop :=
  ∀ point, .passed point ∈ history → ∀ id thread,
    point.scheduler.threads.find? id = some thread → TakesAnyOrder point.scheduler id thread

/-- Posts of blocked signals may come in any order that keeps those of each signal in order. -/
theorem posts_in_any_order (program : Program) : AllTakeAnyOrder program.history := by
  intro point hpoint id thread hthread γ sink kernel hscheduler postings postings' posted posted'
    hsame hblocked haccepted
  obtain ⟨history, hreached⟩ := reached_point program.every_true hpoint
  have hbox : point.scheduler.mailboxes id = some thread.mailbox :=
    congrArg (Option.map Thread.mailbox) hthread
  have hq : thread.signals.queue.Sound := hreached.allSignals lasting_sound id _ hbox
  rw [← hscheduler] at hthread
  have hrunning : kernel.scheduler.currentThread.id = point.scheduler.currentThread.id := by
    rw [hscheduler]
  exact postedAlike_makeAll hthread hrunning hq hsame hblocked haccepted

/-- A thread that blocks two signals, and has a record of one of them and three slots left. -/
def twoBlocked : Program where
  calls := [
    .scheduling (.spawn { pendingCapacity := 4, initialMask := .ofList [10, 34] }),
    .signal (.sigqueue 1 34 7)]

/-- Posts of both signals. The second post of the standard signal merges into the first one. -/
def alternating : List Posting :=
  [.send (.carrying 34 · 8), .send (.plain 10), .interrupt ⟨34, .kernel, none, 9⟩,
    .send (.plain 10)]

/-- The same posts with those of the standard signal first. -/
def standardFirst : List Posting :=
  [.send (.plain 10), .send (.plain 10), .send (.carrying 34 · 8),
    .interrupt ⟨34, .kernel, none, 9⟩]

/-- How posts to the thread end, and what it is handed if everything is unblocked after them. -/
def observed (postings : List Posting) : List (Option (Option Fate)) × List (Nat × UInt64) :=
  let (outcomes, after) := Posting.makeAll discarding 1 postings twoBlocked.final
  (outcomes.map Except.toOption,
    (after.handedOver 1 MaskMode.setExactly.code (some ∅)).map fun o ↦ (o.signal, o.value))

theorem posts_in_any_order_twoBlocked :
    observed alternating = ([some (some .queued), some (some .queued), some (some .queued),
        some (some .coalesced)], [(10, 0), (34, 7), (34, 8), (34, 9)]) ∧
      observed standardFirst = ([some (some .queued), some (some .coalesced), some (some .queued),
        some (some .queued)], [(10, 0), (34, 7), (34, 8), (34, 9)]) ∧
      AllTakeAnyOrder twoBlocked.history :=
  ⟨by decide +kernel, by decide +kernel, posts_in_any_order twoBlocked⟩

end Program

end SignalKernel
