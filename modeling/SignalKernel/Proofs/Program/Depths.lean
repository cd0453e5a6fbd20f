import SignalKernel.Proofs.Kernel.Deepening
import SignalKernel.Proofs.Kernel.Framing
import SignalKernel.Proofs.Program.Abreast

/-!
# Interrupts are as they were

Operations on signals, threads, the scheduler and its locks leave interrupts masked as deep as they
find them, and hand occurrences over at that depth, with no lock held that was not held before. The
main theorem, `interrupts_as_before`, says so for all sinks that keep the depth themselves, and that
nothing else depends on the depth for sinks that are blind to it. For programs of operations, whose
handlers are such programs as well, it says what they note of the depth: a run inside of an
interrupt handler is the same run one level deeper.
-/

namespace SignalKernel.Program

open SignalKernel.Kernel

/-- The call is an operation, or a list of calls to be made with interrupts masked. Calls on the log
and calls that work on interrupts themselves are not. -/
def Call.isOperation : Call → Bool
  | .log _ | .interrupt _ => false
  | _ => true

/-- Where the calls of programs and of handlers are made. -/
inductive Site.Scripted : Site → Prop
  | recording (depth : Nat) (sweeping : List ThreadId) :
      Scripted ⟨recorder depth sweeping, sweeping⟩
  | discarding (sweeping : List ThreadId) :
      Scripted ⟨marking sweeping fun _ ↦ Kernel.discarding, sweeping⟩

/-- The sinks there serve every invariant of runs. -/
theorem Site.Scripted.serves {site : Site} (h : site.Scripted) (I : RunInvariant) :
    I.serves site.sweeping site.sink := by
  cases h with
  | recording depth sweeping => exact I.recorder_serves depth sweeping
  | discarding sweeping => exact I.discarding_serves sweeping

/-- Runs of operations, at any depth. -/
def atAnyDepth : Comparison where
  allows := Call.isOperation
  admits _ := True
  balanced := True

theorem atAnyDepth_covers : atAnyDepth.Covers where
  log _ h := by cases h
  interrupt _ h := by cases h

theorem Site.Scripted.steady {site : Site} (h : site.Scripted) {C : Comparison} (hcovers : C.Covers)
    (id : ThreadId) (timing : Timing) (o : Occurrence) : Steady C (site.sink id timing o) := by
  cases h with
  | recording depth sweeping => exact steady_recorder hcovers depth sweeping id timing o
  | discarding sweeping =>
      exact steady_marking (fun _ ↦ steady_discarding) sweeping id timing o

/-! ## Kernels at different depths -/

/-- The kernel with interrupts masked deeper by `offset`. -/
def raise (offset : UInt64) (kernel : Kernel Session) : Kernel Session :=
  { kernel with core := kernel.core.raise offset }

/-- The kernel `deeper` is the kernel `after`, but that what was noted later than `before` was noted
at depths greater by `offset`. -/
structure Deepened (offset : UInt64) (before after deeper : Kernel Session) : Prop where
  scheduler : deeper.scheduler = after.scheduler
  logger : deeper.logger = after.logger
  events : ∃ later : Array Event, after.client.events = before.client.events ++ later ∧
    deeper.client.events = before.client.events ++ later.map (Event.deepen offset)
  history : ∃ later : Array Moment, after.client.history = before.client.history ++ later ∧
    deeper.client.history = before.client.history ++ later.map (Moment.deepen offset)
  session : deeper.client = { after.client with
    events := deeper.client.events
    history := deeper.client.history }

/-- What a kernel has in common with itself at other depths. -/
def Common.before {allows : Call → Bool} (kernel : Kernel Session)
    (h : kernel.client.handlers.every allows = true) : Common allows where
  scheduler := kernel.scheduler
  depth := kernel.core.interrupts.depth
  number := kernel.core.number
  records := []
  session := { kernel.client with events := #[], history := #[] }
  allowed := h

theorem shows_raise {allows : Call → Bool} {kernel : Kernel Session}
    (h : kernel.client.handlers.every allows = true) (offset : UInt64) :
    Shows (.before kernel offset) (.before kernel h) (raise offset kernel) where
  scheduler := rfl
  depth := rfl
  number := rfl
  logger := rfl
  client := by simp [raise, Setting.session, Setting.before, Common.before]

theorem raise_zero (kernel : Kernel Session) : raise 0 kernel = kernel := by
  rw [raise, Core.raise, UInt64.add_zero]

/-- What the same computation makes of a kernel and of the kernel at a greater depth. -/
theorem deepened_of_shows {allows : Call → Bool} {offset : UInt64}
    {kernel after deeper : Kernel Session} {common : Common allows}
    (hafter : Shows (.before kernel 0) common after)
    (hdeeper : Shows (.before kernel offset) common deeper) :
    Deepened offset kernel after deeper where
  scheduler := hdeeper.scheduler.trans hafter.scheduler.symm
  logger := hdeeper.logger.trans hafter.logger.symm
  events := by
    refine ⟨common.session.events, ?_, ?_⟩
    · rw [hafter.client]
      simp [Setting.session, Setting.before, Event.map_deepen_zero]
    · rw [hdeeper.client]
      rfl
  history := by
    refine ⟨common.session.history, ?_, ?_⟩
    · rw [hafter.client]
      simp [Setting.session, Setting.before, Moment.map_deepen_zero]
    · rw [hdeeper.client]
      rfl
  session := by
    rw [hdeeper.client, hafter.client]
    rfl

/-! ## Runs at different depths -/

/-- Calls do the same at a greater depth, and leave the depth as it was. -/
structure SameDeeper (offset : UInt64) (site : Site) (calls : List Call)
    (kernel : Kernel Session) : Prop where
  answers : (Call.runAll site calls (raise offset kernel)).1 =
    Answer.deepenAll offset (Call.runAll site calls kernel).1
  depth : (Call.runAll site calls kernel).2.core.interrupts = kernel.core.interrupts
  depth_raise : (Call.runAll site calls (raise offset kernel)).2.core.interrupts =
    (raise offset kernel).core.interrupts
  deepened : Deepened offset kernel (Call.runAll site calls kernel).2
    (Call.runAll site calls (raise offset kernel)).2

variable {site : Site} {calls : List Call} {kernel : Kernel Session}

theorem sameDeeper_of_isOperation (hsite : site.Scripted)
    (hcalls : Call.allEvery Call.isOperation calls = true)
    (hhandlers : kernel.client.handlers.every Call.isOperation = true) (offset : UInt64) :
    SameDeeper offset site calls kernel := by
  let common : Common atAnyDepth.allows := .before kernel hhandlers
  obtain ⟨answers, after, hdepth, hafter⟩ := answers_calls atAnyDepth_covers
    (hsite.steady atAnyDepth_covers) site.sweeping calls hcalls common
  have hdepth : after.depth = kernel.core.interrupts.depth := hdepth trivial
  have hfirst := hafter (.before kernel 0) trivial (raise 0 kernel) (shows_raise hhandlers 0)
  have hdeeper := hafter (.before kernel offset) trivial (raise offset kernel)
    (shows_raise hhandlers offset)
  simp only [raise_zero] at hfirst
  obtain ⟨hanswers, hshows⟩ := hfirst
  obtain ⟨hanswers', hshows'⟩ := hdeeper
  constructor
  case answers =>
    rw [hanswers', hanswers]
    show Answer.deepenAll offset answers = Answer.deepenAll offset (Answer.deepenAll 0 answers)
    rw [Answer.deepenAll_zero]
  case depth =>
    refine congrArg InterruptDepth.mk (hshows.depth.trans ?_)
    rw [hdepth]
    exact UInt64.add_zero _
  case depth_raise =>
    refine congrArg InterruptDepth.mk (hshows'.depth.trans ?_)
    rw [hdepth]
    rfl
  case deepened => exact deepened_of_shows hshows hshows'

/-- Calls that are made as an interrupt handler makes them do the same one level deeper, and leave
the depth as it was. -/
structure SameMasked (site : Site) (calls : List Call) (kernel : Kernel Session) : Prop where
  answers : (asInterrupt (Call.runAll site calls) kernel).1 =
    Answer.deepenAll 1 (Call.runAll site calls kernel).1
  depth : (asInterrupt (Call.runAll site calls) kernel).2.core.interrupts = kernel.core.interrupts
  deepened : Deepened 1 kernel (Call.runAll site calls kernel).2
    (asInterrupt (Call.runAll site calls) kernel).2

theorem SameDeeper.sameMasked (h : SameDeeper 1 site calls kernel) :
    SameMasked site calls kernel where
  answers := h.answers
  depth := by
    have hmasked : (asInterrupt (Call.runAll site calls) kernel).2.core.interrupts =
        ⟨(Call.runAll site calls (raise 1 kernel)).2.core.interrupts.depth - 1⟩ := rfl
    rw [hmasked, h.depth_raise]
    exact congrArg InterruptDepth.mk (UInt64.add_sub_cancel ..)
  deepened := ⟨h.deepened.scheduler, h.deepened.logger, h.deepened.events, h.deepened.history,
    h.deepened.session⟩

/-! ## Operations -/

/-- A scripted sink keeps the depth, as long as all handlers that are left make operations only. -/
theorem keptBy_of_scripted (hsite : site.Scripted) (depth : UInt64) :
    (Frame.atDepth depth fun session : Session ↦
      session.handlers.every Call.isOperation = true).KeptBy site.sink := by
  intro id timing o kernel hfits
  let common : Common atAnyDepth.allows := .before kernel hfits.client
  -- a run that is compared with itself shows that what was common before is common afterwards
  obtain ⟨_, after, hdepth, hafter⟩ := hsite.steady atAnyDepth_covers id timing o common
  have hshows := (hafter (.before kernel 0) trivial (raise 0 kernel)
    (shows_raise hfits.client 0)).2
  rw [raise_zero] at hshows
  constructor
  · have hkept : after.depth = kernel.core.interrupts.depth := hdepth trivial
    show (site.sink id timing o kernel).2.core.interrupts.depth = depth
    rw [hshows.depth, hkept]
    exact (UInt64.add_zero _).trans hfits.core
  · rw [hshows.client]
    exact after.allowed

theorem framed_of_kept {γ α : Type} {F : Frame γ} {m : KernelM γ α} (h : F.Kept m) :
    Framed F fun _ : Sink γ ↦ m :=
  ⟨fun _ ↦ h, fun _ _ _ _ ↦ rfl⟩

/-- To look up a thread keeps to every frame. -/
theorem framed_lookup {γ : Type} (F : Frame γ) (id : ThreadId) :
    Framed F (fun _ : Sink γ ↦ current) ∧ Framed F fun _ : Sink γ ↦ find? id :=
  ⟨framed_of_kept (Frame.kept_critical (fun _ ↦ rfl) fun _ ↦ rfl),
    framed_of_kept (Frame.kept_critical (fun _ ↦ rfl) fun _ ↦ rfl)⟩

/-- Interrupts are as they were before, during and after operations. -/
structure InterruptsAsBefore : Prop where
  /-- Operations end at the depth at which they began, if their sink does, and call the sink at that
  depth only. What the client keeps to may be anything that the sink keeps at that depth. -/
  depth : ∀ {γ α : Type} {work : Sink γ → KernelM γ α}, Work γ work →
    ∀ depth client, Framed (.atDepth depth client) work
  /-- The same is true of the whole core, so that no lock is held that was not held before. -/
  core : ∀ {γ α : Type} {work : Sink γ → KernelM γ α}, Work γ work →
    ∀ {c : Core} (h : c.MayEnter) client, Framed (.ofCore h client) work
  /-- Threads are looked up at any depth and with any core. -/
  lookup : ∀ {γ : Type} (F : Frame γ) id,
    Framed F (fun _ : Sink γ ↦ current) ∧ Framed F fun _ : Sink γ ↦ find? id
  /-- Operations do not depend on the depth, unless their sink does. What the client notes of it may
  differ. -/
  blind : ∀ {γ α : Type} {work : Sink γ → KernelM γ α}, Work γ work → ∀ offset (R : γ → γ → Prop)
    {sink : Sink γ}, (∀ id timing o, Blind offset R (sink id timing o)) →
      Blind offset R (work sink)
  /-- In particular they are the same in an interrupt handler. -/
  interrupt : ∀ {γ α : Type} {work : Sink γ → KernelM γ α}, Work γ work → ∀ (R : γ → γ → Prop)
    {sink : Sink γ}, (∀ id timing o, Blind 1 R (sink id timing o)) →
      ∀ kernel, R kernel.client kernel.client → SameInInterrupt R (work sink) kernel
  /-- Handlers that are programs of operations keep the depth. -/
  scripted : ∀ {site : Site}, site.Scripted → ∀ depth, (Frame.atDepth depth fun session : Session ↦
    session.handlers.every Call.isOperation = true).KeptBy site.sink
  /-- Programs with such handlers have the same answers, deliveries and final states at any depth,
  where all that is noted of the depth is greater by as much as the depth itself. -/
  deeper : ∀ {site : Site}, site.Scripted → ∀ calls, Call.allEvery Call.isOperation calls = true →
    ∀ kernel : Kernel Session, kernel.client.handlers.every Call.isOperation = true →
      ∀ offset, SameDeeper offset site calls kernel
  /-- So they have in an interrupt handler, with the depths greater by one. -/
  masked : ∀ {site : Site}, site.Scripted → ∀ calls, Call.allEvery Call.isOperation calls = true →
    ∀ kernel : Kernel Session, kernel.client.handlers.every Call.isOperation = true →
      SameMasked site calls kernel

/-- Every operation is a frame for interrupts, and hands occurrences over outside of critical
sections. -/
theorem interrupts_as_before : InterruptsAsBefore where
  depth hwork depth client := hwork.framed (.atDepth depth client)
  core hwork _ h client := hwork.framed (.ofCore h client)
  lookup := framed_lookup
  blind hwork _ _ _ hsink := hwork.blind hsink
  interrupt hwork _ _ hsink _ hclient := (hwork.blind hsink).sameInInterrupt hclient
  scripted := keptBy_of_scripted
  deeper hsite _ hcalls _ hhandlers := sameDeeper_of_isOperation hsite hcalls hhandlers
  masked hsite _ hcalls _ hhandlers :=
    (sameDeeper_of_isOperation hsite hcalls hhandlers 1).sameMasked

/-- Two occurrences are queued and then delivered by a change of the mask. The handler of the first
one looks at the thread's signals and posts a third occurrence. -/
def handlerPosts : Program where
  handlers := [(10, [[.signal (.state (some 1)), .signal (.sigqueue 1 12 3)]])]
  calls := [
    .scheduling (.spawn { pendingCapacity := 2, initialMask := .ofList [10, 34] }),
    .signal (.kill 1 10),
    .signal (.sigqueue 1 34 2),
    .signal (.changeMask (some 1) MaskMode.unblock.code (some (.ofList [10, 34])) false)]

/-- The depths at which occurrences were delivered, in order. -/
def depths (history : Array Moment) : List UInt64 :=
  history.toList.filterMap fun
    | .delivered delivery => some delivery.interruptDepth
    | _ => none

theorem interrupts_as_before_handlerPosts :
    depths (Call.runAll ⟨recorder 1 [], []⟩ handlerPosts.calls handlerPosts.start).2.client.history
        = [0, 0, 0] ∧
      depths (asInterrupt (Call.runAll ⟨recorder 1 [], []⟩ handlerPosts.calls)
        handlerPosts.start).2.client.history = [1, 1, 1] ∧
      SameMasked ⟨recorder 1 [], []⟩ handlerPosts.calls handlerPosts.start :=
  ⟨by decide +kernel, by decide +kernel, interrupts_as_before.masked (.recording 1 [])
    handlerPosts.calls (by decide) handlerPosts.start (by decide)⟩

end SignalKernel.Program
