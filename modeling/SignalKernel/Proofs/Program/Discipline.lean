import SignalKernel.Proofs.Program.Depths
import SignalKernel.Proofs.Program.Stages

/-!
# What programs keep step by step

A `Discipline` is a property of kernels and a relation between them that every step of a program
keeps to: the operations of the kernel, as long as their sink does, and what calls do besides. This
module concludes that every call keeps to it, and so does every handler that a delivery starts,
however deep deliveries nest. In contrast to `RunInvariant` it may speak of the core's lock and of
critical sections, of which calls on interrupts are not idle.
-/

namespace SignalKernel.Program

open SignalKernel.Kernel

variable {α β : Type}

/-- The same threads, the same critical sections and the same points. The core may be masked
otherwise. -/
structure Apart (kernel after : Kernel Session) : Prop where
  scheduler : after.scheduler = kernel.scheduler
  number : after.core.number = kernel.core.number
  lock : after.core.lock = kernel.core.lock
  sections : after.client.sections = kernel.client.sections
  points : points after.client.history.toList = points kernel.client.history.toList

/-- The same core and the same handlers as well. -/
structure Beside (kernel after : Kernel Session) : Prop extends Apart kernel after where
  core : after.core = kernel.core
  handlers : after.client.handlers = kernel.client.handlers

theorem Beside.refl (kernel : Kernel Session) : Beside kernel kernel :=
  ⟨⟨rfl, rfl, rfl, rfl, rfl⟩, rfl, rfl⟩

/-- The kernel of a program before it does anything. -/
def blank (program : Program) : Kernel Session where
  logger := { threshold := program.threshold, isAttached := program.isAttached }
  client := { handlers := program.handlers }

/-- A property that all steps keep, and a relation between the kernels before and after them. -/
structure Discipline where
  /-- The calls that keep to the discipline. -/
  allows : Call → Bool
  holds : Kernel Session → Prop
  leads : Kernel Session → Kernel Session → Prop
  trans : ∀ {first second third}, leads first second → leads second third → leads first third
  handlers : ∀ {kernel}, holds kernel → kernel.client.handlers.every allows = true
  apart : ∀ {kernel after}, Apart kernel after → after.client.handlers.every allows = true →
    holds kernel → holds after ∧ leads kernel after
  critical : ∀ {α : Type} {body : ProgramM α}, (∀ kernel, Beside kernel (body kernel).2) →
    Takes holds holds leads (critical body)
  operation : ∀ {α : Type} {operation : Sink Session → ProgramM α} {sink : Sink Session},
    Operation Session operation → (∀ id timing o, Takes holds holds leads (sink id timing o)) →
      Takes holds holds leads (operation sink)
  setErrno : ∀ id code,
    Takes holds holds leads (modifyThread id fun thread ↦ { thread with errno := code })
  resetState : ∀ {id mask capacity}, allows (.signal (.resetState id mask capacity)) = true →
    ∀ site, Takes holds holds leads ((SignalCall.resetState id mask capacity).run site)
  enter : Takes holds holds leads InterruptCall.enter.run
  leave : ∀ index, Takes holds holds leads (InterruptCall.leave index).run
  point : ∀ sweeping, Takes holds holds leads (markPoint sweeping)

namespace Discipline

variable (D : Discipline)

/-- A computation keeps to the discipline. -/
def Keeps (m : ProgramM α) : Prop :=
  Takes D.holds D.holds D.leads m

/-- All that the sink does keeps to the discipline. -/
def KeptBy (sink : Sink Session) : Prop :=
  ∀ id timing o, D.Keeps (sink id timing o)

variable {D}

theorem Keeps.bind {m : ProgramM α} {f : α → ProgramM β} (hm : D.Keeps m)
    (hf : ∀ a, D.Keeps (f a)) : D.Keeps (m >>= f) := by
  intro kernel h
  obtain ⟨hmiddle, hleads⟩ := hm kernel h
  obtain ⟨hafter, hleads'⟩ := hf (m kernel).1 (m kernel).2 hmiddle
  exact ⟨hafter, D.trans hleads hleads'⟩

/-- A step that goes on with what it read of the kernel. -/
theorem Keeps.read {f : Kernel Session → ProgramM α} (h : ∀ kernel, D.Keeps (f kernel)) :
    D.Keeps (get >>= f) :=
  fun kernel ↦ h kernel kernel

theorem keeps_apart {m : ProgramM α} (h : ∀ kernel, Apart kernel (m kernel).2)
    (hhandlers : ∀ kernel, (m kernel).2.client.handlers = kernel.client.handlers) :
    D.Keeps m := by
  intro kernel hkernel
  refine D.apart (h kernel) ?_ hkernel
  rw [hhandlers]
  exact D.handlers hkernel

theorem keeps_pure (a : α) : D.Keeps (pure a : ProgramM α) :=
  keeps_apart (fun _ ↦ ⟨rfl, rfl, rfl, rfl, rfl⟩) fun _ ↦ rfl

theorem keeps_readScheduler (f : Scheduler → α) : D.Keeps (readScheduler f : ProgramM α) :=
  D.critical Beside.refl

theorem keeps_readSignals (id : ThreadId) (f : SignalState → α) :
    D.Keeps (readSignals id f : ProgramM α) :=
  D.critical Beside.refl

/-- A change of the session that has nothing to do with sections, points and handlers. -/
theorem keeps_modifySession {change : Session → Session}
    (hsections : ∀ session, (change session).sections = session.sections)
    (hpoints : ∀ session,
      points (change session).history.toList = points session.history.toList)
    (hhandlers : ∀ session, (change session).handlers = session.handlers) :
    D.Keeps (modifySession change) :=
  keeps_apart (fun kernel ↦ ⟨rfl, rfl, rfl, hsections kernel.client, hpoints kernel.client⟩)
    fun kernel ↦ hhandlers kernel.client

theorem keeps_note (event : Event) : D.Keeps (note event) :=
  keeps_modifySession (fun _ ↦ rfl) (fun _ ↦ rfl) fun _ ↦ rfl

/-- Moments other than points may be marked anywhere. -/
theorem keeps_mark {moment : Moment} (h : moment.point? = none) : D.Keeps (mark moment) := by
  refine keeps_modifySession (fun _ ↦ rfl) (fun session ↦ ?_) fun _ ↦ rfl
  have hnone : points [moment] = [] := by
    rw [points, List.filterMap_cons, h, List.filterMap_nil]
  show points (session.history.push moment).toList = _
  rw [Array.toList_push, points_append, hnone, List.append_nil]

theorem keeps_markPost (sweeping : List ThreadId) (id : ThreadId) (o : Occurrence) :
    D.Keeps (markPost sweeping id o) :=
  .read fun _ ↦ keeps_mark rfl

theorem keeps_markSent (sweeping : List ThreadId) (id : ThreadId) (o : Occurrence) :
    D.Keeps (markSent sweeping id o) := by
  refine .read fun kernel ↦ ?_
  split
  · exact keeps_markPost sweeping id o
  · exact keeps_pure ()

theorem keeps_markSwept (id : ThreadId) : D.Keeps (markSwept id) :=
  .read fun _ ↦ keeps_mark rfl

theorem keeps_markMasked (id : ThreadId) (set : Option SignalSet)
    (outcome : Except MaskError Unit) : D.Keeps (markMasked id set outcome) := by
  rcases set with _ | set <;> rcases outcome with _ | _
  · exact keeps_pure ()
  · exact keeps_pure ()
  · exact keeps_pure ()
  · exact keeps_markSwept id

theorem keeps_noteSent (id : ThreadId) (o : Occurrence)
    (outcome : Except SignalError (Option Fate)) : D.Keeps (noteSent id o outcome) := by
  rcases outcome with (_ | _ | _) | (_ | fate)
  · exact keeps_note _
  · exact keeps_note _
  · exact keeps_pure ()
  · exact keeps_pure ()
  · exact keeps_note _

theorem keeps_whileMasking (id : ThreadId) {change : ProgramM α} (h : D.Keeps change) :
    D.Keeps (whileMasking id change) := by
  refine Keeps.bind (keeps_modifySession (fun _ ↦ rfl) (fun _ ↦ rfl) fun _ ↦ rfl) fun _ ↦ ?_
  refine h.bind fun result ↦ ?_
  exact Keeps.bind (keeps_modifySession (fun _ ↦ rfl) (fun _ ↦ rfl) fun _ ↦ rfl) fun _ ↦
    keeps_pure result

theorem keeps_noteDelivery (id : ThreadId) (timing : Timing) (o : Occurrence) :
    D.Keeps (noteDelivery id timing o) :=
  .read fun _ ↦ keeps_note _

/-- The handler that is taken makes allowed calls only. -/
theorem keeps_takeHandler (signal : Nat) {f : List Call → ProgramM α}
    (hf : ∀ script, Call.allEvery D.allows script = true → D.Keeps (f script)) :
    D.Keeps (takeHandler signal >>= f) := by
  intro kernel h
  obtain ⟨hallowed, hleft⟩ := Handlers.every_take signal (D.handlers h)
  obtain ⟨hmiddle, hleads⟩ :
      D.holds (takeHandler signal kernel).2 ∧ D.leads kernel (takeHandler signal kernel).2 :=
    D.apart ⟨rfl, rfl, rfl, rfl, rfl⟩ hleft h
  obtain ⟨hafter, hleads'⟩ := hf _ hallowed _ hmiddle
  exact ⟨hafter, D.trans hleads hleads'⟩

/-! ## Calls on the log -/

theorem keeps_modifyLogger (change : Logger → Logger) :
    D.Keeps (modifyLogger change : ProgramM Unit) :=
  keeps_apart (fun _ ↦ ⟨rfl, rfl, rfl, rfl, rfl⟩) fun _ ↦ rfl

/-- Logging enters a critical section for the boot buffer only. -/
theorem keeps_log (record : Record) : D.Keeps (Kernel.log record : ProgramM Unit) := by
  refine .read fun kernel ↦ ?_
  split
  · exact D.critical fun _ ↦ ⟨⟨rfl, rfl, rfl, rfl, rfl⟩, rfl, rfl⟩
  · exact keeps_modifyLogger _

theorem keeps_logCall (call : LogCall) : D.Keeps call.run := by
  cases call with
  | setThreshold threshold => exact (keeps_modifyLogger _).bind fun _ ↦ keeps_pure _
  | isEnabled level => exact .read fun _ ↦ keeps_pure _
  | log record => exact (keeps_log record).bind fun _ ↦ keeps_pure _
  | flush => exact keeps_pure _
  | attach => exact D.critical fun _ ↦ ⟨⟨rfl, rfl, rfl, rfl, rfl⟩, rfl, rfl⟩
  | buffered => exact D.critical Beside.refl
  | bufferedSize => exact D.critical Beside.refl
  | install threshold =>
      refine .read fun kernel ↦ ?_
      simp only
      split
      · exact keeps_pure _
      · exact (keeps_modifyLogger _).bind fun _ ↦ keeps_pure _

/-! ## Calls on interrupts -/

/-- A change of the core's interrupts. -/
theorem keeps_modifyInterrupts (change : InterruptDepth → InterruptDepth) :
    D.Keeps (modifyComponent interrupts change) :=
  keeps_apart (fun _ ↦ ⟨rfl, rfl, rfl, rfl, rfl⟩) fun _ ↦ rfl

/-- A change of the second core's interrupts. -/
theorem keeps_modifyFlag (change : InterruptFlag → InterruptFlag) :
    D.Keeps (modifyComponent flagInterrupts change) :=
  keeps_apart (fun _ ↦ ⟨rfl, rfl, rfl, rfl, rfl⟩) fun _ ↦ rfl

/-- Calls that answer with what they see. -/
theorem keeps_told {tell : Kernel Session → Answer} :
    D.Keeps (get >>= fun kernel ↦ pure (tell kernel)) :=
  .read fun _ ↦ keeps_pure _

section Flags

variable {σ : Type} [InterruptControl σ] {component : Component (Kernel Session) σ}
  (hchange : ∀ change, D.Keeps (modifyComponent component change))
include hchange

theorem keeps_saveFlags : D.Keeps (saveFlags component) := by
  refine .read fun kernel ↦ (hchange _).bind fun _ ↦ ?_
  refine Keeps.bind (keeps_modifySession (fun _ ↦ rfl) (fun _ ↦ rfl) fun _ ↦ rfl) fun _ ↦ ?_
  exact keeps_pure _

theorem keeps_restoreFlags (index : Nat) {answer : ProgramM Answer} (hanswer : D.Keeps answer) :
    D.Keeps (restoreFlags component index answer) := by
  refine .read fun kernel ↦ ?_
  split
  · exact keeps_pure _
  · exact (hchange _).bind fun _ ↦ hanswer

end Flags

theorem keeps_interruptCall (call : InterruptCall) : D.Keeps call.run := by
  cases call with
  | status => exact keeps_told
  | enable => exact (keeps_modifyInterrupts _).bind fun _ ↦ keeps_told
  | disable => exact (keeps_modifyInterrupts _).bind fun _ ↦ keeps_told
  | save => exact (keeps_saveFlags keeps_modifyInterrupts).bind fun _ ↦ keeps_told
  | restore index => exact keeps_restoreFlags keeps_modifyInterrupts index keeps_told
  | enter => exact D.enter
  | leave index => exact D.leave index
  | addToCell value => exact D.critical fun _ ↦ ⟨⟨rfl, rfl, rfl, rfl, rfl⟩, rfl, rfl⟩
  | setCell value =>
      exact Keeps.bind (keeps_modifySession (fun _ ↦ rfl) (fun _ ↦ rfl) fun _ ↦ rfl) fun _ ↦
        keeps_told
  | flagStatus => exact keeps_told
  | flagEnable => exact (keeps_modifyFlag _).bind fun _ ↦ keeps_pure _
  | flagSave => exact (keeps_saveFlags keeps_modifyFlag).bind fun _ ↦ keeps_told
  | flagRestore index => exact keeps_restoreFlags keeps_modifyFlag index keeps_told

/-! ## Calls on the scheduler -/

theorem keeps_discarding (id : ThreadId) (timing : Timing) (o : Occurrence) :
    D.Keeps (discarding id timing o) :=
  keeps_log _

theorem keeps_onThread (id : Option ThreadId) {body : ThreadId → ProgramM Answer}
    (hbody : ∀ id, D.Keeps (body id)) : D.Keeps (onThread id body) := by
  cases id with
  | none => exact (keeps_readScheduler _).bind fun caller ↦ hbody caller.id
  | some id =>
      refine (keeps_readScheduler _).bind fun found ↦ ?_
      cases found with
      | none => exact keeps_pure _
      | some thread => exact hbody thread.id

theorem keeps_schedulingCall (call : SchedulingCall) : D.Keeps call.run := by
  have hoperation {α : Type} {operation : Sink Session → ProgramM α}
      (h : Operation Session operation) : D.Keeps (operation discarding) :=
    D.operation h keeps_discarding
  cases call with
  | spawn config =>
      refine (hoperation (.spawn config)).bind fun thread ↦ ?_
      exact (keeps_readSignals _ _).bind fun _ ↦ keeps_pure _
  | current =>
      refine (keeps_readScheduler _).bind fun thread ↦ ?_
      exact (keeps_readScheduler _).bind fun _ ↦ keeps_pure _
  | setCurrent id => exact (hoperation (.setCurrent id)).bind fun _ ↦ keeps_pure _
  | requestResched => exact (hoperation .requestResched).bind fun _ ↦ keeps_pure _
  | isReschedRequested => exact keeps_told
  | contextSwitches => exact keeps_told
  | preemptionPoint => exact (hoperation .preemptionPoint).bind fun _ ↦ keeps_pure _
  | schedule => exact (hoperation .schedule).bind fun _ ↦ keeps_pure _
  | lock id =>
      refine keeps_onThread id fun id ↦ (hoperation (.lockScheduler id)).bind fun _ ↦ ?_
      exact Keeps.bind (keeps_modifySession (fun _ ↦ rfl) (fun _ ↦ rfl) fun _ ↦ rfl) fun _ ↦
        keeps_told
  | unlock index =>
      refine .read fun kernel ↦ ?_
      split
      · refine Keeps.bind (keeps_modifySession (fun _ ↦ rfl) (fun _ ↦ rfl) fun _ ↦ rfl) fun _ ↦ ?_
        exact (hoperation (.unlockScheduler _)).bind fun _ ↦ keeps_pure _
      · exact keeps_pure _
  | lockDepth id => exact keeps_onThread id fun _ ↦ keeps_told
  | describe id => exact keeps_onThread id fun _ ↦ keeps_told

/-! ## Calls on signals -/

section Sink

variable {sink : Sink Session} (hsink : D.KeptBy sink)
include hsink

/-- Sending is marked before, and noted afterwards. -/
theorem keeps_send (sweeping : List ThreadId) (id : ThreadId)
    (occurrence : ThreadId → Occurrence) : D.Keeps (do
      let caller ← current
      markSent sweeping id (occurrence caller.id)
      let outcome ← send sink id occurrence
      noteSent id (occurrence caller.id) outcome
      pure (Answer.sent (.ofOutcome outcome) ((← get).thread caller.id).errno)) := by
  refine (keeps_readScheduler _).bind fun caller ↦ ?_
  refine (keeps_markSent sweeping id _).bind fun _ ↦ ?_
  refine Keeps.bind (D.operation (.send id occurrence) hsink) fun outcome ↦ ?_
  exact (keeps_noteSent id _ outcome).bind fun _ ↦ keeps_told

theorem keeps_signalCall (sweeping : List ThreadId) {call : SignalCall}
    (h : D.allows (.signal call) = true) : D.Keeps (call.run ⟨sink, sweeping⟩) := by
  cases call with
  | changeMask id how set wantsOld =>
      refine keeps_onThread id fun id ↦ ?_
      refine (keeps_whileMasking id (D.operation (.changeMask id how set) hsink)).bind
        fun reply ↦ ?_
      refine (keeps_markMasked id set reply.outcome).bind fun _ ↦ ?_
      exact (keeps_readSignals id _).bind fun _ ↦ keeps_pure _
  | sigprocmask how set wantsOld =>
      refine (keeps_readScheduler _).bind fun caller ↦ ?_
      refine (keeps_whileMasking caller.id (D.operation (.sigprocmask how set) hsink)).bind
        fun reply ↦ ?_
      refine (keeps_markMasked caller.id set reply.outcome).bind fun _ ↦ .read fun kernel ↦ ?_
      exact (keeps_readSignals caller.id _).bind fun _ ↦ keeps_pure _
  | sigpending => exact Keeps.bind (D.operation .sigpending hsink) fun _ ↦ keeps_pure _
  | kill id signal => exact keeps_send hsink sweeping id (.plain signal)
  | sigqueue id signal value =>
      exact keeps_send hsink sweeping id fun sender ↦ .carrying signal sender value
  | post id o =>
      refine keeps_onThread id fun id ↦ (keeps_markPost sweeping id o).bind fun _ ↦ ?_
      refine Keeps.bind (D.operation (.post id o) hsink) fun outcome ↦ ?_
      exact (keeps_note _).bind fun _ ↦ keeps_pure _
  | sweep id =>
      refine keeps_onThread id fun id ↦ ?_
      refine Keeps.bind (D.operation (.sweep id) hsink) fun delivered ↦ ?_
      exact (keeps_markSwept id).bind fun _ ↦ keeps_pure _
  | deliver o =>
      refine (keeps_readScheduler _).bind fun caller ↦ ?_
      exact Keeps.bind (hsink caller.id .immediate o) fun _ ↦ keeps_pure _
  | errno id => exact keeps_onThread id fun _ ↦ keeps_told
  | setErrno id code =>
      exact keeps_onThread id fun id ↦ Keeps.bind (D.setErrno id code) fun _ ↦ keeps_pure _
  | state id =>
      rw [SignalCall.run]
      exact keeps_onThread id fun _ ↦ D.critical Beside.refl
  | query id signal =>
      rw [SignalCall.run]
      exact keeps_onThread id fun id ↦ keeps_readSignals id _
  | resetState id mask capacity => exact D.resetState h _

end Sink

/-! ## Calls in order -/

/-- Masking interrupts around a computation makes no difference. -/
theorem keeps_withoutInterrupts {σ : Type} [InterruptControl σ]
    {component : Component (Kernel Session) σ}
    (hchange : ∀ change, D.Keeps (modifyComponent component change)) {body : ProgramM α}
    (hbody : D.Keeps body) : D.Keeps (withoutInterrupts component body) := by
  refine .read fun kernel ↦ Keeps.bind (hchange fun _ ↦ _) fun _ ↦ hbody.bind fun result ↦ ?_
  exact Keeps.bind (hchange _) fun _ ↦ keeps_pure result

section Calls

variable {sink : Sink Session}

mutual

/-- Every allowed call keeps to the discipline. -/
theorem keeps_call (hsink : D.KeptBy sink) (sweeping : List ThreadId) :
    ∀ call : Call, call.every D.allows = true → D.Keeps (call.run ⟨sink, sweeping⟩)
  | .scheduling call, _ => keeps_schedulingCall call
  | .signal _, h => keeps_signalCall hsink sweeping h
  | .log call, _ => keeps_logCall call
  | .interrupt call, _ => keeps_interruptCall call
  | .masked calls, h =>
      (keeps_withoutInterrupts keeps_modifyInterrupts (keeps_calls hsink sweeping calls h)).bind
        fun _ ↦ keeps_pure _
  | .flagMasked calls, h =>
      (keeps_withoutInterrupts keeps_modifyFlag (keeps_calls hsink sweeping calls h)).bind
        fun _ ↦ keeps_told
  | .unknown, _ => keeps_pure _

/-- So do calls in order. -/
theorem keeps_calls (hsink : D.KeptBy sink) (sweeping : List ThreadId) :
    ∀ calls : List Call, Call.allEvery D.allows calls = true →
      D.Keeps (Call.runAll ⟨sink, sweeping⟩ calls)
  | [], _ => keeps_pure []
  | call :: rest, h => by
      rw [Call.allEvery, Bool.and_eq_true] at h
      refine (keeps_call hsink sweeping call h.1).bind fun answer ↦ ?_
      refine Keeps.bind (D.point sweeping) fun _ ↦ ?_
      exact (keeps_calls hsink sweeping rest h.2).bind fun answers ↦ keeps_pure _

end

variable (hsink : D.KeptBy sink)
include hsink

/-- A handler keeps to the discipline. -/
theorem keeps_runHandler (sweeping : List ThreadId) {calls : List Call}
    (h : Call.allEvery D.allows calls = true) : D.Keeps (runHandler ⟨sink, sweeping⟩ calls) := by
  induction calls with
  | nil => exact keeps_pure ()
  | cons call rest ih =>
      rw [Call.allEvery, Bool.and_eq_true] at h
      refine (keeps_call hsink sweeping call h.1).bind fun answer ↦ (keeps_note _).bind fun _ ↦ ?_
      exact Keeps.bind (D.point sweeping) fun _ ↦ ih h.2

/-- The calls of a program keep to the discipline. -/
theorem keeps_observeAll (sweeping : List ThreadId) {calls : List Call}
    (h : Call.allEvery D.allows calls = true) : D.Keeps (observeAll ⟨sink, sweeping⟩ calls) := by
  induction calls with
  | nil => exact keeps_pure []
  | cons call rest ih =>
      rw [Call.allEvery, Bool.and_eq_true] at h
      have hobserved : D.Keeps (observe ⟨sink, sweeping⟩ call) := by
        refine .read fun before ↦ (keeps_call hsink sweeping call h.1).bind fun answer ↦ ?_
        exact Keeps.bind (D.point sweeping) fun _ ↦ .read fun after ↦ keeps_pure _
      exact hobserved.bind fun step ↦ (ih h.2).bind fun steps ↦ keeps_pure _

end Calls

/-! ## Deliveries -/

theorem keptBy_marking {handle : List ThreadId → Sink Session}
    (h : ∀ sweeping, D.KeptBy (handle sweeping)) (sweeping : List ThreadId) :
    D.KeptBy (marking sweeping handle) := by
  intro id timing o
  refine .read fun kernel ↦ (keeps_mark rfl).bind fun _ ↦ ?_
  exact Keeps.bind (D.point _) fun _ ↦ h _ id timing o

/-- The sink that carries out handlers keeps to the discipline, at any depth. -/
theorem keptBy_recorder (depth : Nat) (sweeping : List ThreadId) :
    D.KeptBy (recorder depth sweeping) := by
  induction depth generalizing sweeping with
  | zero => exact keptBy_marking (fun _ ↦ keeps_noteDelivery) sweeping
  | succ depth ih =>
      refine keptBy_marking (fun sweeping id timing o ↦ ?_) sweeping
      refine (keeps_noteDelivery id timing o).bind fun _ ↦ ?_
      exact keeps_takeHandler o.signal fun script h ↦ keeps_runHandler (ih sweeping) sweeping h

/-- So does the sink of every place where calls are made. -/
theorem keptBy_of_scripted {site : Site} (h : site.Scripted) : D.KeptBy site.sink := by
  cases h with
  | recording depth sweeping => exact keptBy_recorder depth sweeping
  | discarding sweeping => exact keptBy_marking (fun _ ↦ keeps_discarding) sweeping

theorem site_scripted (program : Program) : program.site.Scripted := by
  unfold Program.site
  cases program.discards with
  | true => exact .discarding []
  | false => exact .recording program.handlers.size []

/-- A run keeps to the discipline, from the blank kernel on. -/
theorem keeps_run {program : Program} (hevery : program.every D.allows = true)
    (hstart : D.holds program.blank) :
    D.holds program.final ∧ D.leads program.blank program.final := by
  rw [Program.every, Bool.and_eq_true] at hevery
  have hrun : D.Keeps (do
      notify .schedulerCreated
      markPoint []
      observeAll program.site program.calls) := by
    refine (keeps_log _).bind fun _ ↦ Keeps.bind (D.point []) fun _ ↦ ?_
    exact keeps_observeAll (keptBy_of_scripted (site_scripted program)) _ hevery.1
  exact hrun _ hstart

end Discipline

end SignalKernel.Program
