import SignalKernel.Proofs.Program.Quiet

/-!
# Invariants of runs

A run is an induction over two structures at once: the calls of a program, and the deliveries that
nest in it, whose handlers make calls themselves. `RunInvariant` collects what has to be shown of
the single operations, and this module does the induction. `calls_keep` is the part over calls, for
a sink whose deliveries keep to the invariant; `recorder_serves` is the part over the depth of
nesting, which makes such a sink; `final_holds` is the result for a program.

A property of a run need not hold at every moment: `holds` is what is true where a call may be made,
and `ended` what is true when a call is over and the next point of the run is not marked yet.
-/

namespace SignalKernel.Program

open SignalKernel.Kernel

/-! ## The calls that a program makes -/

mutual

/-- A call makes only allowed calls on signals. -/
def Call.only (allows : SignalCall → Bool) : Call → Bool
  | .signal call => allows call
  | .masked calls | .flagMasked calls => Call.allOnly allows calls
  | .scheduling _ | .log _ | .interrupt _ | .unknown => true

/-- All calls of a list make only allowed calls on signals. -/
def Call.allOnly (allows : SignalCall → Bool) : List Call → Bool
  | [] => true
  | call :: rest => call.only allows && Call.allOnly allows rest

end

mutual

/-- A call is allowed, or all calls that it is made up of are. -/
def Call.every (allows : Call → Bool) : Call → Bool
  | .masked calls | .flagMasked calls => Call.allEvery allows calls
  | call => allows call

/-- All calls of a list, and those that they are made up of, are allowed. -/
def Call.allEvery (allows : Call → Bool) : List Call → Bool
  | [] => true
  | call :: rest => call.every allows && Call.allEvery allows rest

end

/-- The calls on signals have to be allowed, and all others are. -/
def Call.onSignals (allows : SignalCall → Bool) : Call → Bool
  | .signal call => allows call
  | _ => true

mutual

theorem Call.every_onSignals (allows : SignalCall → Bool) :
    ∀ call : Call, call.every (Call.onSignals allows) = call.only allows
  | .signal _ | .scheduling _ | .log _ | .interrupt _ | .unknown => rfl
  | .masked calls | .flagMasked calls => Call.allEvery_onSignals allows calls

theorem Call.allEvery_onSignals (allows : SignalCall → Bool) :
    ∀ calls : List Call, Call.allEvery (Call.onSignals allows) calls = Call.allOnly allows calls
  | [] => rfl
  | call :: rest => by
      rw [Call.allEvery, Call.allOnly, Call.every_onSignals, Call.allEvery_onSignals]

end

mutual

theorem Call.every_true : ∀ call : Call, call.every (fun _ ↦ true) = true
  | .signal _ | .scheduling _ | .log _ | .interrupt _ | .unknown => rfl
  | .masked calls | .flagMasked calls => Call.allEvery_true calls

theorem Call.allEvery_true : ∀ calls : List Call, Call.allEvery (fun _ ↦ true) calls = true
  | [] => rfl
  | call :: rest => by
      rw [Call.allEvery, Call.every_true, Call.allEvery_true]
      rfl

end

/-- All handlers make only allowed calls on signals. -/
def Handlers.only (allows : SignalCall → Bool) (handlers : Handlers) : Bool :=
  handlers.all fun (_, scripts) ↦ scripts.all (Call.allOnly allows)

/-- All handlers make only allowed calls. -/
def Handlers.every (allows : Call → Bool) (handlers : Handlers) : Bool :=
  handlers.all fun (_, scripts) ↦ scripts.all (Call.allEvery allows)

theorem Handlers.every_onSignals (allows : SignalCall → Bool) (handlers : Handlers) :
    handlers.every (Call.onSignals allows) = handlers.only allows := by
  unfold every only
  simp only [funext (Call.allEvery_onSignals allows)]

theorem Handlers.every_true (handlers : Handlers) : handlers.every (fun _ ↦ true) = true := by
  rw [every]
  simp only [funext Call.allEvery_true]
  simp

theorem Handlers.every_cons {allows : Call → Bool} {handled : Nat} {scripts : List (List Call)}
    {rest : Handlers} : Handlers.every allows ((handled, scripts) :: rest) =
      (scripts.all (Call.allEvery allows) && Handlers.every allows rest) :=
  List.all_cons

/-- The handler that is taken makes only allowed calls if all do, and so do those that are left. A
handler that is not there makes none. -/
theorem Handlers.every_take {allows : Call → Bool} {handlers : Handlers} (signal : Nat)
    (h : handlers.every allows = true) :
    Call.allEvery allows ((handlers.take signal).1.getD []) = true ∧
      (handlers.take signal).2.every allows = true := by
  induction handlers with
  | nil => exact ⟨rfl, h⟩
  | cons first rest ih =>
      obtain ⟨handled, scripts⟩ := first
      rw [every_cons, Bool.and_eq_true] at h
      obtain ⟨hscripts, hrest⟩ := h
      unfold take
      split
      · cases scripts with
        | nil =>
            refine ⟨rfl, ?_⟩
            rw [every_cons, hrest]
            rfl
        | cons script later =>
            rw [List.all_cons, Bool.and_eq_true] at hscripts
            refine ⟨hscripts.1, ?_⟩
            rw [every_cons, hscripts.2, hrest]
            rfl
      · obtain ⟨htaken, hleft⟩ := ih hrest
        refine ⟨htaken, ?_⟩
        rw [every_cons, hscripts, hleft]
        rfl

end SignalKernel.Program

namespace SignalKernel

/-- A program and its handlers make only allowed calls on signals. -/
def Program.only (allows : Program.SignalCall → Bool) (program : Program) : Bool :=
  Program.Call.allOnly allows program.calls && program.handlers.only allows

/-- A program and its handlers make only allowed calls. -/
def Program.every (allows : Program.Call → Bool) (program : Program) : Bool :=
  Program.Call.allEvery allows program.calls && program.handlers.every allows

/-- Every program makes only allowed calls if all calls are. -/
theorem Program.every_true (program : Program) : program.every (fun _ ↦ true) = true := by
  rw [every, Program.Call.allEvery_true, Program.Handlers.every_true]
  rfl

theorem Program.every_onSignals (allows : Program.SignalCall → Bool) (program : Program) :
    program.every (Program.Call.onSignals allows) = program.only allows := by
  rw [every, only, Program.Call.allEvery_onSignals, Program.Handlers.every_onSignals]

end SignalKernel

namespace SignalKernel.Program

open SignalKernel.Kernel

/-! ## What operations have to keep -/

variable {α β : Type}

/-- A computation that starts where `before` is true ends where `after` is, and the kernels before
and after it are related by `leads`. -/
def Takes (before after : Kernel Session → Prop) (leads : Kernel Session → Kernel Session → Prop)
    (m : ProgramM α) : Prop :=
  ∀ kernel, before kernel → after (m kernel).2 ∧ leads kernel (m kernel).2

/-- Where `holds` was true before a computation, it is true afterwards, and the kernels are related
by `leads`. -/
def Keeps (holds : List ThreadId → Kernel Session → Prop)
    (leads : Kernel Session → Kernel Session → Prop) (busy : List ThreadId) (m : ProgramM α) :
    Prop :=
  Takes (holds busy) (holds busy) leads m

/-- A property of kernels that all operations keep if the sink does, and a relation between the
kernels before and after them. The property may depend on the threads that have a sweep in
progress. -/
structure RunInvariant where
  /-- The calls that keep the property. -/
  allows : Call → Bool
  /-- What is true where a call may be made. -/
  holds : List ThreadId → Kernel Session → Prop
  /-- What is true when a call is over, until the next point is marked. -/
  ended : List ThreadId → Kernel Session → Prop
  leads : Kernel Session → Kernel Session → Prop
  /-- The sink does what is expected of it. -/
  serves : List ThreadId → Sink Session → Prop
  trans : ∀ {first second third}, leads first second → leads second third → leads first third
  ended_of_holds : ∀ {busy kernel}, holds busy kernel → ended busy kernel
  handlers : ∀ {busy kernel}, ended busy kernel → kernel.client.handlers.every allows = true
  /-- Apart from handlers, only mailboxes, the history, turns and levels of locks matter. -/
  idle : ∀ {kernel after}, after.mailboxes = kernel.mailboxes →
    after.client.history = kernel.client.history →
      kernel.scheduler.SameTurns after.scheduler → after.client.locks = kernel.client.locks →
        after.client.masking = kernel.client.masking →
          after.client.handlers.every allows = true → leads kernel after ∧
            ∀ busy, (holds busy kernel → holds busy after) ∧ (ended busy kernel → ended busy after)
  point : ∀ busy, Takes (ended busy) (holds busy) leads (markPoint busy)
  scheduling : ∀ {busy call}, allows (.scheduling call) = true →
    Takes (holds busy) (ended busy) leads call.run
  signal : ∀ {busy sink call}, serves busy sink → allows (.signal call) = true →
    Takes (holds busy) (ended busy) leads (call.run ⟨sink, busy⟩)
  /-- A sink that marks deliveries serves if what it does about them keeps the property. -/
  marking : ∀ {handle : List ThreadId → Sink Session},
    (∀ busy id timing o, Keeps holds leads busy (handle busy id timing o)) →
      ∀ busy, serves busy (marking busy handle)

namespace RunInvariant

variable (I : RunInvariant) {busy : List ThreadId} {first second third : Kernel Session → Prop}

theorem takes_bind {m : ProgramM α} {f : α → ProgramM β} (hm : Takes first second I.leads m)
    (hf : ∀ a, Takes second third I.leads (f a)) : Takes first third I.leads (m >>= f) := by
  intro kernel h
  obtain ⟨hmiddle, hleads⟩ := hm kernel h
  obtain ⟨hafter, hleads'⟩ := hf (m kernel).1 (m kernel).2 hmiddle
  exact ⟨hafter, I.trans hleads hleads'⟩

/-- Every part of a call may leave less than the whole call has to. -/
theorem ends_of_keeps {m : ProgramM α} (hm : Keeps I.holds I.leads busy m) :
    Takes (I.holds busy) (I.ended busy) I.leads m :=
  fun kernel h ↦ ⟨I.ended_of_holds (hm kernel h).1, (hm kernel h).2⟩

section Idle

variable {m : ProgramM α} (hm : ∀ kernel, Idle kernel (m kernel).2)
include hm

theorem keeps_of_idle : Keeps I.holds I.leads busy m := by
  intro kernel h
  have hidle := hm kernel
  have hhandlers := I.handlers (I.ended_of_holds h)
  rw [← hidle.handlers] at hhandlers
  obtain ⟨hleads, hkeeps⟩ := I.idle hidle.mailboxes hidle.history hidle.turns hidle.locks
    hidle.masking hhandlers
  exact ⟨(hkeeps busy).1 h, hleads⟩

theorem ended_of_idle : Takes (I.ended busy) (I.ended busy) I.leads m := by
  intro kernel h
  have hidle := hm kernel
  have hhandlers := I.handlers h
  rw [← hidle.handlers] at hhandlers
  obtain ⟨hleads, hkeeps⟩ := I.idle hidle.mailboxes hidle.history hidle.turns hidle.locks
    hidle.masking hhandlers
  exact ⟨(hkeeps busy).2 h, hleads⟩

end Idle

theorem keeps_pure (a : α) : Keeps I.holds I.leads busy (pure a : ProgramM α) :=
  I.keeps_of_idle fun kernel ↦ .refl kernel

theorem keeps_withoutInterrupts {σ : Type} [InterruptControl σ]
    {component : Component (Kernel Session) σ}
    (hset : ∀ state kernel, Idle kernel (component.set state kernel)) {body : ProgramM α}
    (hbody : Keeps I.holds I.leads busy body) :
    Keeps I.holds I.leads busy (withoutInterrupts component body) := by
  refine I.takes_bind (I.keeps_of_idle fun kernel ↦ .refl kernel) fun state ↦ ?_
  refine I.takes_bind (I.keeps_of_idle fun kernel ↦ hset _ kernel) fun _ ↦ ?_
  refine I.takes_bind hbody fun result ↦ ?_
  exact I.takes_bind (I.keeps_of_idle fun kernel ↦ hset _ kernel) fun _ ↦ I.keeps_pure result

/-- Taking a handler keeps the property, and the handler makes only allowed calls. -/
theorem keeps_takeHandler (signal : Nat) {f : List Call → ProgramM α}
    (hf : ∀ script, Call.allEvery I.allows script = true → Keeps I.holds I.leads busy (f script)) :
    Keeps I.holds I.leads busy (takeHandler signal >>= f) := by
  intro kernel h
  obtain ⟨hallowed, hleft⟩ := Handlers.every_take signal (I.handlers (I.ended_of_holds h))
  obtain ⟨hleads, hkeeps⟩ : I.leads kernel (takeHandler signal kernel).2 ∧ ∀ busy,
      (I.holds busy kernel → I.holds busy (takeHandler signal kernel).2) ∧
        (I.ended busy kernel → I.ended busy (takeHandler signal kernel).2) :=
    I.idle rfl rfl (.refl _) rfl rfl hleft
  obtain ⟨hafter, hleads'⟩ := hf _ hallowed _ ((hkeeps busy).1 h)
  exact ⟨hafter, I.trans hleads hleads'⟩

/-! ## Induction over calls -/

section Calls

variable {sink : Sink Session}

mutual

/-- Every call keeps the property, once the next point is marked. -/
theorem call_ends (hsink : I.serves busy sink) : ∀ call : Call, call.every I.allows = true →
    Takes (I.holds busy) (I.ended busy) I.leads (call.run ⟨sink, busy⟩)
  | .scheduling _, h => I.scheduling h
  | .signal _, h => I.signal hsink h
  | .log call, _ => I.ends_of_keeps (I.keeps_of_idle (idle_logCall call))
  | .interrupt call, _ => I.ends_of_keeps (I.keeps_of_idle (idle_interruptCall call))
  | .masked calls, h =>
      I.ends_of_keeps (I.takes_bind
        (I.keeps_withoutInterrupts (fun _ _ ↦ ⟨⟨rfl, rfl, rfl⟩, .refl _, rfl, rfl⟩)
          (calls_keep hsink calls h))
        fun _ ↦ I.keeps_pure _)
  | .flagMasked calls, h =>
      I.ends_of_keeps (I.takes_bind
        (I.keeps_withoutInterrupts (fun _ _ ↦ ⟨⟨rfl, rfl, rfl⟩, .refl _, rfl, rfl⟩)
          (calls_keep hsink calls h))
        fun _ ↦ I.keeps_of_idle fun kernel ↦ .refl kernel)
  | .unknown, _ => I.ends_of_keeps (I.keeps_pure _)

/-- Calls in order keep the property. -/
theorem calls_keep (hsink : I.serves busy sink) :
    ∀ calls : List Call, Call.allEvery I.allows calls = true →
      Keeps I.holds I.leads busy (Call.runAll ⟨sink, busy⟩ calls)
  | [], _ => I.keeps_pure _
  | call :: rest, h => by
      rw [Call.allEvery, Bool.and_eq_true] at h
      exact I.takes_bind (call_ends hsink call h.1) fun _ ↦ I.takes_bind (I.point busy) fun _ ↦
        I.takes_bind (calls_keep hsink rest h.2) fun _ ↦ I.keeps_pure _

end

variable (hsink : I.serves busy sink)
include hsink

/-- A handler keeps the property. -/
theorem runHandler_keeps {calls : List Call} (h : Call.allEvery I.allows calls = true) :
    Keeps I.holds I.leads busy (runHandler ⟨sink, busy⟩ calls) := by
  induction calls with
  | nil => exact I.keeps_pure _
  | cons call rest ih =>
      rw [Call.allEvery, Bool.and_eq_true] at h
      refine I.takes_bind (I.call_ends hsink call h.1) fun answer ↦ ?_
      refine I.takes_bind (I.ended_of_idle (idle_note _)) fun _ ↦ ?_
      exact I.takes_bind (I.point busy) fun _ ↦ ih h.2

/-- The calls of a program keep the property. -/
theorem observeAll_keeps {calls : List Call} (h : Call.allEvery I.allows calls = true) :
    Keeps I.holds I.leads busy (observeAll ⟨sink, busy⟩ calls) := by
  induction calls with
  | nil => exact I.keeps_pure _
  | cons call rest ih =>
      rw [Call.allEvery, Bool.and_eq_true] at h
      have hobserved : Keeps I.holds I.leads busy (observe ⟨sink, busy⟩ call) := by
        refine I.takes_bind (I.keeps_of_idle fun kernel ↦ .refl kernel) fun before ↦ ?_
        refine I.takes_bind (I.call_ends hsink call h.1) fun answer ↦ ?_
        refine I.takes_bind (I.point busy) fun _ ↦ ?_
        exact I.keeps_of_idle fun kernel ↦ .refl kernel
      exact I.takes_bind hobserved fun _ ↦ I.takes_bind (ih h.2) fun _ ↦ I.keeps_pure _

end Calls

/-! ## Induction over the nesting of deliveries -/

theorem keeps_noteDelivery (id : ThreadId) (timing : Timing) (o : Occurrence) :
    Keeps I.holds I.leads busy (noteDelivery id timing o) :=
  I.keeps_of_idle fun kernel ↦ idle_note (.delivered (delivery kernel id timing o)) kernel

/-- The sink that carries out handlers serves, at any depth. -/
theorem recorder_serves (depth : Nat) (busy : List ThreadId) :
    I.serves busy (recorder depth busy) := by
  induction depth generalizing busy with
  | zero => exact I.marking (fun _ ↦ I.keeps_noteDelivery) busy
  | succ depth ih =>
      refine I.marking (fun busy id timing o ↦ ?_) busy
      refine I.takes_bind (I.keeps_noteDelivery id timing o) fun _ ↦ ?_
      exact I.keeps_takeHandler o.signal fun script hscript ↦ I.runHandler_keeps (ih busy) hscript

theorem discarding_serves (busy : List ThreadId) :
    I.serves busy (Program.marking busy fun _ ↦ discarding) := by
  refine I.marking (fun busy id timing o ↦ ?_) busy
  exact I.keeps_of_idle fun kernel ↦
    idle_of_rests (same_notify (.discarded o.signal id) kernel).rests

/-- The sink of every program serves, also one that drops what is delivered. -/
theorem site_serves (program : Program) : I.serves [] program.site.sink := by
  unfold Program.site
  cases program.discards with
  | true => exact I.discarding_serves []
  | false => exact I.recorder_serves _ []

/-- What holds once the scheduler that a program starts on exists holds at the end of the program's
run. -/
theorem final_holds {program : Program} (hevery : program.every I.allows = true)
    (hstart : ∀ kernel : Kernel Session, kernel.scheduler = {} →
      kernel.client = { handlers := program.handlers } → I.ended [] kernel) :
    I.holds [] program.final := by
  rw [Program.every, Bool.and_eq_true] at hevery
  have hstarted : I.holds [] program.start := by
    have hmade := I.takes_bind
      (I.ended_of_idle fun kernel ↦ idle_of_rests (same_notify .schedulerCreated kernel).rests)
      fun _ ↦ I.point []
    exact (hmade _ (hstart _ rfl rfl)).1
  exact (I.observeAll_keeps (I.site_serves program) hevery.1 _ hstarted).1

end RunInvariant

end SignalKernel.Program
