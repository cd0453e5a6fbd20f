import SignalKernel.Kernel.Entry

/-!
# Relations that all operations respect

Two runs of the kernel's operations are compared in several ways: with different sinks, on kernels
that log differently, on kernels whose queues are laid out differently. What has to be shown for
each comparison is the same: the relation holds between computations that are put together from
related ones, and between the single steps that operations are made up of. `Congruence` collects
that, and `Operation.related` concludes that every operation is related to itself, as long as the
sinks are related. `Work` is what operations are put together to.
-/

namespace SignalKernel.Kernel

variable {γ α : Type}

/-- An operation of the kernel, as a computation that depends on the sink that deliveries go to. To
look up a thread is none by itself: it is a step of others, which go on with what they need. -/
inductive Operation (γ : Type) : {α : Type} → (Sink γ → KernelM γ α) → Prop
  | spawn (config : ThreadConfig) : Operation γ fun _ ↦ spawn config
  | setCurrent (id : ThreadId) : Operation γ fun _ ↦ setCurrent id
  | requestResched : Operation γ fun _ ↦ requestResched
  | schedule : Operation γ fun _ ↦ schedule
  | preemptionPoint : Operation γ fun _ ↦ preemptionPoint
  | lockScheduler (id : ThreadId) : Operation γ fun _ ↦ lockScheduler id
  | unlockScheduler (id : ThreadId) : Operation γ fun _ ↦ unlockScheduler id
  | dispatch (id : ThreadId) (timing : Timing) (o : Occurrence) :
      Operation γ fun sink ↦ dispatch sink id timing o
  | post (id : ThreadId) (o : Occurrence) : Operation γ fun sink ↦ post sink id o
  | sweep (id : ThreadId) : Operation γ fun sink ↦ sweep sink id
  | changeMask (id : ThreadId) (how : Int) (set : Option SignalSet) :
      Operation γ fun sink ↦ changeMask sink id how set
  | sigprocmask (how : Int) (set : Option SignalSet) :
      Operation γ fun sink ↦ sigprocmask sink how set
  | sigpending : Operation γ fun _ ↦ sigpending
  | postTo (id : ThreadId) (o : Occurrence) : Operation γ fun sink ↦ postTo sink id o
  | send (id : ThreadId) (occurrence : ThreadId → Occurrence) :
      Operation γ fun sink ↦ send sink id occurrence
  | kill (id : ThreadId) (signal : Nat) : Operation γ fun sink ↦ kill sink id signal
  | sigqueue (id : ThreadId) (signal : Nat) (value : UInt64) :
      Operation γ fun sink ↦ sigqueue sink id signal value

/-- Operations in sequence. Each of them may depend on what those before it returned. -/
inductive Work (γ : Type) : {α : Type} → (Sink γ → KernelM γ α) → Prop
  | operation {α : Type} {operation : Sink γ → KernelM γ α} (h : Operation γ operation) :
      Work γ operation
  | done {α : Type} (a : α) : Work γ fun _ ↦ pure a
  | next {α β : Type} {work : Sink γ → KernelM γ α} {rest : α → Sink γ → KernelM γ β}
      (h : Work γ work) (hrest : ∀ a, Work γ (rest a)) :
      Work γ fun sink ↦ work sink >>= fun a ↦ rest a sink

/-- A relation between computations that every step of an operation has to itself. A step that
reads a thread stands together with the computation that goes on with what it read, of which only
the part that is used has to be the same. -/
structure Congruence (γ : Type) where
  rel : {α : Type} → KernelM γ α → KernelM γ α → Prop
  pure : ∀ {α : Type} (a : α), rel (pure a) (pure a)
  bind : ∀ {α β : Type} {m m' : KernelM γ α} {f f' : α → KernelM γ β}, rel m m' →
    (∀ a, rel (f a) (f' a)) → rel (m >>= f) (m' >>= f')
  notify : ∀ notice, rel (Kernel.notify notice) (Kernel.notify notice)
  current : ∀ {α : Type} {f f' : Thread → KernelM γ α},
    (∀ thread thread', thread.id = thread'.id → rel (f thread) (f' thread')) →
      rel (Kernel.current >>= f) (Kernel.current >>= f')
  find? : ∀ {α : Type} id {f f' : Option Thread → KernelM γ α},
    (∀ found found', found.map Thread.id = found'.map Thread.id → rel (f found) (f' found')) →
      rel (Kernel.find? id >>= f) (Kernel.find? id >>= f')
  lockDepth : ∀ {α : Type} id {f f' : UInt32 → KernelM γ α}, (∀ depth, rel (f depth) (f' depth)) →
    rel (get >>= fun kernel ↦ f (kernel.thread id).lockDepth)
      (get >>= fun kernel ↦ f' (kernel.thread id).lockDepth)
  capacity : ∀ {α : Type} id {f f' : Nat → KernelM γ α}, (∀ count, rel (f count) (f' count)) →
    rel (get >>= fun kernel ↦ f (kernel.thread id).pendingCapacity)
      (get >>= fun kernel ↦ f' (kernel.thread id).pendingCapacity)
  blocked : ∀ id, rel (readSignals id (·.blocked)) (readSignals id (·.blocked))
  deliverable : ∀ id, rel (readSignals id (·.deliverable)) (readSignals id (·.deliverable))
  pending : ∀ id, rel (readSignals id (·.pending)) (readSignals id (·.pending))
  receive : ∀ id o, rel (withSignals id (·.receive o)) (withSignals id (·.receive o))
  take : ∀ id signal,
    rel (withSignals id (·.takeUnblocked signal)) (withSignals id (·.takeUnblocked signal))
  mask : ∀ id mode set,
    rel (withSignals id fun s ↦ ((s.changeMask mode set).blocked, s.changeMask mode set))
      (withSignals id fun s ↦ ((s.changeMask mode set).blocked, s.changeMask mode set))
  lock : ∀ id, rel (lockScheduler id) (lockScheduler id)
  giveBack : ∀ id, rel
    (modifyThread id fun thread ↦ { thread with lockDepth := thread.lockDepth - 1 })
    (modifyThread id fun thread ↦ { thread with lockDepth := thread.lockDepth - 1 })
  errno : ∀ id code, rel (modifyThread id fun thread ↦ { thread with errno := code })
    (modifyThread id fun thread ↦ { thread with errno := code })
  spawn : ∀ config, rel (withScheduler (·.spawn config)) (withScheduler (·.spawn config))
  setCurrent : ∀ id, rel (Kernel.setCurrent id) (Kernel.setCurrent id)
  request : rel requestResched requestResched
  rotate : rel (withScheduler (·.rotate)) (withScheduler (·.rotate))
  preempt : rel (withScheduler (·.preempt)) (withScheduler (·.preempt))

namespace Congruence

variable (C : Congruence γ)

theorem discard {m m' : KernelM γ α} (h : C.rel m m') :
    C.rel (discard m : KernelM γ Unit) (discard m') :=
  C.bind h fun _ ↦ C.pure ()

theorem notifySwitch (switch : Option Switch) :
    C.rel (notifySwitch switch) (notifySwitch switch) := by
  cases switch with
  | none => exact C.pure ()
  | some switch => exact C.notify _

theorem spawned (config : ThreadConfig) : C.rel (Kernel.spawn config) (Kernel.spawn config) :=
  C.bind (C.spawn config) fun thread ↦ C.bind (C.notify _) fun _ ↦ C.pure thread

theorem schedule : C.rel schedule schedule :=
  C.bind C.rotate fun switch ↦ C.bind (C.notifySwitch switch) fun _ ↦ C.pure switch

theorem preemptionPoint : C.rel preemptionPoint preemptionPoint :=
  C.bind C.preempt fun switch ↦ C.bind (C.notifySwitch switch) fun _ ↦ C.pure switch

/-- A preemption point comes with the last level only. -/
theorem unlockScheduler (id : ThreadId) : C.rel (unlockScheduler id) (unlockScheduler id) := by
  -- the depth is read before the level is given back
  let unlockFrom (depth : UInt32) : KernelM γ Unit := do
    modifyThread id fun thread ↦ { thread with lockDepth := thread.lockDepth - 1 }
    if depth = 1 then Functor.discard Kernel.preemptionPoint
  have hunlock (depth : UInt32) : C.rel (unlockFrom depth) (unlockFrom depth) := by
    refine C.bind (C.giveBack id) fun _ ↦ ?_
    split
    · exact C.discard C.preemptionPoint
    · exact C.pure ()
  exact C.lockDepth id hunlock

/-- Leaving an error is a step, and there may be nothing to leave. -/
theorem storeErrno {ε : Type} (id : ThreadId) (errno : ε → Errno) (outcome : Except ε α) :
    C.rel (storeErrno id errno outcome) (storeErrno id errno outcome) := by
  cases outcome with
  | ok _ => exact C.pure ()
  | error error => exact C.errno id (errno error)

section Sinks

variable {sink sink' : Sink γ}
  (hsink : ∀ id timing o, C.rel (sink id timing o) (sink' id timing o))
include hsink

theorem dispatch (id : ThreadId) (timing : Timing) (o : Occurrence) :
    C.rel (dispatch sink id timing o) (dispatch sink' id timing o) :=
  C.bind (C.notify _) fun _ ↦ hsink id timing o

theorem post (id : ThreadId) (o : Occurrence) : C.rel (post sink id o) (post sink' id o) := by
  unfold Kernel.post
  split
  · exact C.pure _
  · refine C.bind (C.receive id o) fun outcome ↦ ?_
    cases outcome with
    | error error => exact C.pure _
    | ok fate =>
        cases fate with
        | delivered => exact C.bind (C.dispatch hsink id .immediate o) fun _ ↦ C.pure _
        | queued => exact C.bind (C.notify _) fun _ ↦ C.pure _
        | coalesced => exact C.bind (C.notify _) fun _ ↦ C.pure _

theorem drain (id : ThreadId) (signal limit delivered : Nat) :
    C.rel (drain sink id signal limit delivered) (drain sink' id signal limit delivered) := by
  induction limit generalizing delivered with
  | zero => exact C.pure _
  | succ limit ih =>
      refine C.bind (C.take id signal) fun taken ↦ ?_
      cases taken with
      | none => exact C.pure _
      | some o =>
          refine C.bind (C.notify _) fun _ ↦ ?_
          exact C.bind (C.dispatch hsink id .deferred o) fun _ ↦ ih (delivered + 1)

theorem drainEach (id : ThreadId) (limit : Nat) (signals : List Nat) (delivered : Nat) :
    C.rel (drainEach sink id limit signals delivered)
      (drainEach sink' id limit signals delivered) := by
  induction signals generalizing delivered with
  | nil => exact C.pure _
  | cons signal rest ih => exact C.bind (C.drain hsink id signal limit delivered) ih

theorem sweep (id : ThreadId) : C.rel (sweep sink id) (sweep sink' id) := by
  refine C.bind (C.deliverable id) fun ready ↦ ?_
  split
  · exact C.pure 0
  · exact C.capacity id fun limit ↦ C.drainEach hsink id limit ready.toList 0

theorem installMask (id : ThreadId) (old : SignalSet) (mode : MaskMode) (set : SignalSet) :
    C.rel (installMask sink id old mode set) (installMask sink' id old mode set) := by
  refine C.bind (C.mask id mode set) fun new ↦ C.bind (C.notify _) fun _ ↦ ?_
  exact C.discard (C.sweep hsink id)

theorem requestMask (id : ThreadId) (old : SignalSet) (how : Int) (set : Option SignalSet) :
    C.rel (requestMask sink id old how set) (requestMask sink' id old how set) := by
  cases set with
  | none => exact C.pure _
  | some set =>
      simp only [Kernel.requestMask]
      cases MaskMode.ofCode how with
      | error error => exact C.bind (C.notify _) fun _ ↦ C.pure _
      | ok mode => exact C.bind (C.installMask hsink id old mode set) fun _ ↦ C.pure _

theorem changeMask (id : ThreadId) (how : Int) (set : Option SignalSet) :
    C.rel (changeMask sink id how set) (changeMask sink' id how set) := by
  refine C.bind (C.lock id) fun _ ↦ C.bind (C.blocked id) fun old ↦ ?_
  refine C.bind (C.requestMask hsink id old how set) fun outcome ↦ ?_
  exact C.bind (C.unlockScheduler id) fun _ ↦ C.pure _

theorem sigprocmask (how : Int) (set : Option SignalSet) :
    C.rel (sigprocmask sink how set) (sigprocmask sink' how set) := by
  refine C.current fun caller caller' hcaller ↦ ?_
  rw [hcaller]
  refine C.bind (C.changeMask hsink _ how set) fun reply ↦ ?_
  exact C.bind (C.storeErrno _ _ _) fun _ ↦ C.pure reply

/-- Sending goes on with the identity of the thread that was found. -/
theorem postTo (id : ThreadId) (o : Occurrence) :
    C.rel (postTo sink id o) (postTo sink' id o) := by
  refine C.find? id fun found found' hfound ↦ ?_
  rcases found with _ | target <;> rcases found' with _ | target'
  · exact C.bind (C.notify _) fun _ ↦ C.pure _
  · cases hfound
  · cases hfound
  · have hid : target.id = target'.id := Option.some.inj hfound
    simp only [hid]
    split
    · exact C.pure _
    · refine C.bind (C.post hsink _ o) fun outcome ↦ ?_
      cases outcome with
      | ok fate => exact C.pure _
      | error error => exact C.bind (C.notify _) fun _ ↦ C.pure _

theorem send (id : ThreadId) (occurrence : ThreadId → Occurrence) :
    C.rel (send sink id occurrence) (send sink' id occurrence) := by
  refine C.current fun caller caller' hcaller ↦ ?_
  rw [hcaller]
  refine C.bind (C.postTo hsink id _) fun outcome ↦ ?_
  exact C.bind (C.storeErrno _ _ _) fun _ ↦ C.pure outcome

end Sinks

theorem sigpending : C.rel (sigpending : KernelM γ SignalSet) sigpending := by
  refine C.current fun caller caller' hcaller ↦ ?_
  rw [hcaller]
  exact C.pending _

end Congruence

/-- Every operation is related to itself, if the sinks are related. -/
theorem Operation.related {operation : Sink γ → KernelM γ α} (h : Operation γ operation)
    (C : Congruence γ) {sink sink' : Sink γ}
    (hsink : ∀ id timing o, C.rel (sink id timing o) (sink' id timing o)) :
    C.rel (operation sink) (operation sink') := by
  cases h with
  | spawn config => exact C.spawned config
  | setCurrent id => exact C.setCurrent id
  | requestResched => exact C.request
  | schedule => exact C.schedule
  | preemptionPoint => exact C.preemptionPoint
  | lockScheduler id => exact C.lock id
  | unlockScheduler id => exact C.unlockScheduler id
  | dispatch id timing o => exact C.dispatch hsink id timing o
  | post id o => exact C.post hsink id o
  | sweep id => exact C.sweep hsink id
  | changeMask id how set => exact C.changeMask hsink id how set
  | sigprocmask how set => exact C.sigprocmask hsink how set
  | sigpending => exact C.sigpending
  | postTo id o => exact C.postTo hsink id o
  | send id occurrence => exact C.send hsink id occurrence
  | kill id signal => exact C.send hsink id _
  | sigqueue id signal value => exact C.send hsink id _

/-- So is all work. -/
theorem Work.related {work : Sink γ → KernelM γ α} (h : Work γ work) (C : Congruence γ)
    {sink sink' : Sink γ} (hsink : ∀ id timing o, C.rel (sink id timing o) (sink' id timing o)) :
    C.rel (work sink) (work sink') := by
  induction h with
  | operation h => exact h.related C hsink
  | done a => exact C.pure a
  | next _ _ ih ihrest => exact C.bind ih ihrest

end SignalKernel.Kernel
