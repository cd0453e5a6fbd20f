import SignalKernel.Proofs.Kernel.Congruence

/-!
# Where sinks are called

An operation enters and leaves critical sections many times, but never hands an occurrence over
inside of one. A `Frame` is a condition on the core that an empty critical section does not end,
together with what the client keeps to. `Work.framed` says that operations stay within a frame as
long as the sink does, and that they call the sink there only: what the sink would do elsewhere
makes no difference. The frames that matter are that interrupts are masked to a certain
depth, and that the core is exactly what it was, its lock included.
-/

namespace SignalKernel.Kernel

variable {γ α β : Type}

/-- What is known of the core and of the client while an operation is not in a critical section. -/
structure Frame (γ : Type) where
  core : Core → Prop
  client : γ → Prop
  leave_enter : ∀ {c : Core}, core c → core (c.enter.2.leave c.enter.1)

namespace Frame

variable (F : Frame γ)

/-- The kernel is within the frame. -/
structure Fits (kernel : Kernel γ) : Prop where
  core : F.core kernel.core
  client : F.client kernel.client

/-- A computation stays within the frame. -/
def Kept (m : KernelM γ α) : Prop :=
  ∀ kernel, F.Fits kernel → F.Fits (m kernel).2

/-- The sink stays within the frame. -/
def KeptBy (sink : Sink γ) : Prop :=
  ∀ id timing o, F.Kept (sink id timing o)

/-- The sinks do the same within the frame. Elsewhere they may differ. -/
def Agree (sink sink' : Sink γ) : Prop :=
  ∀ id timing o kernel, F.Fits kernel → sink id timing o kernel = sink' id timing o kernel

/-- Two computations do the same within the frame and stay there. -/
def Same (m m' : KernelM γ α) : Prop :=
  ∀ kernel, F.Fits kernel → m kernel = m' kernel ∧ F.Fits (m kernel).2

variable {F}

theorem Kept.same {m : KernelM γ α} (h : F.Kept m) : F.Same m m :=
  fun kernel hfits ↦ ⟨rfl, h kernel hfits⟩

theorem Same.bind {m m' : KernelM γ α} {f f' : α → KernelM γ β} (hm : F.Same m m')
    (hf : ∀ a, F.Same (f a) (f' a)) : F.Same (m >>= f) (m' >>= f') := by
  intro kernel hfits
  obtain ⟨hsame, hmiddle⟩ := hm kernel hfits
  obtain ⟨hsame', hafter⟩ := hf (m kernel).1 (m kernel).2 hmiddle
  refine ⟨?_, hafter⟩
  show f (m kernel).1 (m kernel).2 = f' (m' kernel).1 (m' kernel).2
  rw [← hsame]
  exact hsame'

/-- A step that leaves the core and the client alone. -/
theorem kept_of_eq {m : KernelM γ α} (hcore : ∀ kernel, (m kernel).2.core = kernel.core)
    (hclient : ∀ kernel, (m kernel).2.client = kernel.client) : F.Kept m := by
  intro kernel hfits
  constructor
  · rw [hcore]
    exact hfits.core
  · rw [hclient]
    exact hfits.client

/-- A step in a critical section that leaves the core and the client alone. -/
theorem kept_critical {body : KernelM γ α} (hcore : ∀ kernel, (body kernel).2.core = kernel.core)
    (hclient : ∀ kernel, (body kernel).2.client = kernel.client) : F.Kept (critical body) := by
  intro kernel hfits
  constructor
  · show F.core ((body (enter kernel).2).2.core.leave (enter kernel).1)
    rw [hcore]
    exact F.leave_enter hfits.core
  · show F.client (body (enter kernel).2).2.client
    rw [hclient]
    exact hfits.client

/-- Logging enters a critical section for the boot buffer only. -/
theorem kept_notify (notice : Notice) : F.Kept (notify notice) := by
  intro kernel hfits
  show F.Fits ((if kernel.logger.buffers notice.record.level
    then critical (modifyLogger (·.log notice.record))
    else modifyLogger (·.log notice.record)) kernel).2
  split
  · exact kept_critical (fun _ ↦ rfl) (fun _ ↦ rfl) kernel hfits
  · exact kept_of_eq (fun _ ↦ rfl) (fun _ ↦ rfl) kernel hfits

/-- A step that goes on with what it read of the kernel. -/
theorem Same.read {δ : Type} {part : Kernel γ → δ} {f f' : δ → KernelM γ α}
    (h : ∀ a, F.Same (f a) (f' a)) :
    F.Same (get >>= fun kernel ↦ f (part kernel)) (get >>= fun kernel ↦ f' (part kernel)) :=
  fun kernel hfits ↦ h (part kernel) kernel hfits

variable (F)

/-- Operations keep to frames step by step. -/
def congruence : Congruence γ where
  rel := F.Same
  pure _ := (kept_of_eq (fun _ ↦ rfl) fun _ ↦ rfl).same
  bind := Same.bind
  notify notice := (kept_notify notice).same
  current h :=
    (kept_critical (fun _ ↦ rfl) fun _ ↦ rfl).same.bind fun thread ↦ h thread thread rfl
  find? _ :=
    fun h ↦ (kept_critical (fun _ ↦ rfl) fun _ ↦ rfl).same.bind fun found ↦ h found found rfl
  lockDepth _ := Same.read
  capacity _ := Same.read
  blocked _ := (kept_critical (fun _ ↦ rfl) fun _ ↦ rfl).same
  deliverable _ := (kept_critical (fun _ ↦ rfl) fun _ ↦ rfl).same
  pending _ := (kept_critical (fun _ ↦ rfl) fun _ ↦ rfl).same
  receive _ _ := (kept_critical (fun _ ↦ rfl) fun _ ↦ rfl).same
  take _ _ := (kept_critical (fun _ ↦ rfl) fun _ ↦ rfl).same
  mask _ _ _ := (kept_critical (fun _ ↦ rfl) fun _ ↦ rfl).same
  lock _ := (kept_of_eq (fun _ ↦ rfl) fun _ ↦ rfl).same
  giveBack _ := (kept_of_eq (fun _ ↦ rfl) fun _ ↦ rfl).same
  errno _ _ := (kept_of_eq (fun _ ↦ rfl) fun _ ↦ rfl).same
  spawn _ := (kept_critical (fun _ ↦ rfl) fun _ ↦ rfl).same
  setCurrent _ := (kept_critical (fun _ ↦ rfl) fun _ ↦ rfl).same
  request := (kept_of_eq (fun _ ↦ rfl) fun _ ↦ rfl).same
  rotate := (kept_critical (fun _ ↦ rfl) fun _ ↦ rfl).same
  preempt := (kept_critical (fun _ ↦ rfl) fun _ ↦ rfl).same

/-- Interrupts are masked to a depth. -/
def atDepth (depth : UInt64) (client : γ → Prop) : Frame γ where
  core c := c.interrupts.depth = depth
  client := client
  leave_enter {c} h := by
    have hinterrupts : (c.enter.2.leave c.enter.1).interrupts = c.interrupts :=
      InterruptDepth.restore_save _ c.interrupts
    rw [hinterrupts]
    exact h

/-- The core is exactly what it was, where it could enter without waiting. -/
def ofCore {c : Core} (h : c.MayEnter) (client : γ → Prop) : Frame γ where
  core c' := c' = c
  client := client
  leave_enter {c'} hc' := by
    subst hc'
    exact Core.leave_enter h

end Frame

/-- From a kernel within a frame work stays within the frame if the sink does, and calls the sink
only there. -/
structure Framed (F : Frame γ) (work : Sink γ → KernelM γ α) : Prop where
  kept : ∀ {sink : Sink γ}, F.KeptBy sink → F.Kept (work sink)
  handed : ∀ {sink sink' : Sink γ}, F.KeptBy sink → F.Agree sink sink' →
    ∀ kernel, F.Fits kernel → work sink kernel = work sink' kernel

theorem Work.framed {work : Sink γ → KernelM γ α} (h : Work γ work) (F : Frame γ) :
    Framed F work where
  kept hkept kernel hfits :=
    (h.related F.congruence (fun id timing o ↦ (hkept id timing o).same) kernel hfits).2
  handed hkept hagree kernel hfits :=
    (h.related F.congruence (fun id timing o kernel hfits ↦
      ⟨hagree id timing o kernel hfits, hkept id timing o kernel hfits⟩) kernel hfits).1

end SignalKernel.Kernel
