import SignalKernel.Proofs.Interrupt.Tokens
import SignalKernel.Proofs.Kernel.Custody
import SignalKernel.Proofs.Program.Discipline

/-!
# Critical sections that programs keep

A program may enter critical sections, keep them across calls, and leave them in any order. Its
calls take and drop tokens, step by step (`step_tokensOf`) and in a row (`run_tokensOf`). The main
theorem, `sections_compose`, says in which state such steps leave a core, and that the core need not
share its lock with others to show the same. The depth is a word: where it comes back to 0 in spite
of live tokens, interrupts get through (`enabled_by_overflow`).

The core's lock counts the sections: it is held once for each that is kept, wherever a program or a
handler of it may make a call. `order_kept` says so of whole runs, and that the run queue stays in
order, as long as fewer than 2 ^ 32 sections are entered.
-/

namespace SignalKernel.Program

open SignalKernel.Kernel

/-- How many critical sections the program keeps. -/
def Session.entered (session : Session) : Nat :=
  session.sections.countP Option.isSome

/-- The core's lock is held once for each critical section that the program keeps. -/
def sectionCustody : Custody Session where
  holds core session := core.lock = .heldBy core.number session.entered
  few session := session.sections.length < 2 ^ 32
  mayEnter hlock hfew :=
    CoreLock.mayEnter_heldBy (Nat.lt_of_le_of_lt List.countP_le_length hfew) hlock

/-! ## The program's calls as steps -/

/-- The core, with the critical sections that the program keeps as its tokens. -/
def tokensOf (kernel : Kernel Session) : Sections.Holder Core where
  core := kernel.core
  tokens := kernel.client.sections.map fun kept ↦ kept.map fun entered ↦ ⟨entered, none⟩

/-- The step that a call is, if it enters or leaves a section. A program has no call that keeps a
cell locked. -/
def InterruptCall.step? : InterruptCall → Option Sections.Step
  | .enter => some (.take none)
  | .leave index => some (.drop index)
  | _ => none

/-- What the answer to such a call tells. -/
def Answer.ofSight : Sections.Sight → Answer
  | .taken wereEnabled depth => .atDepth wereEnabled depth
  | .dropped depth => .atDepth true depth
  | .missing depth => .atDepth false depth

/-- A program that enters a section takes a token. -/
theorem step_tokensOf_enter {kernel : Kernel Session} (h : kernel.core.MayEnter) :
    ∃ sight, (tokensOf kernel).step (.take none) =
        some (sight, tokensOf (InterruptCall.enter.run kernel).2) ∧
      (InterruptCall.enter.run kernel).1 = .ofSight sight := by
  let entered := kernel.core.enter.1
  let core := kernel.core.enter.2
  refine ⟨.taken entered.flags.wereEnabled core.interrupts.depth, ?_, rfl⟩
  have hafter : (InterruptCall.enter.run kernel).2.client.sections =
    kernel.client.sections ++ [some entered] := rfl
  rw [Sections.Holder.step, tokensOf, Sections.enter?_of_mayEnter h, tokensOf, hafter,
    List.map_append]
  rfl

/-- A program that leaves one drops it. -/
theorem step_tokensOf_leave (index : Nat) (kernel : Kernel Session) :
    ∃ sight, (tokensOf kernel).step (.drop index) =
        some (sight, tokensOf ((InterruptCall.leave index).run kernel).2) ∧
      ((InterruptCall.leave index).run kernel).1 = .ofSight sight := by
  have htoken : (tokensOf kernel).tokens[index]? =
      kernel.client.sections[index]?.map fun kept ↦ kept.map fun entered ↦ ⟨entered, none⟩ :=
    List.getElem?_map
  simp only [InterruptCall.run, run_bind, run_get]
  rcases hkept : kernel.client.sections[index]? with _ | _ | entered <;> rw [hkept] at htoken
  · refine ⟨.missing kernel.core.interrupts.depth, ?_, rfl⟩
    simp only [Sections.Holder.step, htoken]
    rfl
  · refine ⟨.missing kernel.core.interrupts.depth, ?_, rfl⟩
    simp only [Sections.Holder.step, htoken]
    rfl
  · refine ⟨.dropped (kernel.core.interrupts.depth - 1), ?_, rfl⟩
    simp only [Sections.Holder.step, htoken]
    show some (_, Sections.Holder.mk _ ((kernel.client.sections.map _).set index none) _) = some
      (_, Sections.Holder.mk _ ((kernel.client.sections.set index none).map _) _)
    rw [List.map_set]
    rfl

theorem step_tokensOf {call : InterruptCall} {step : Sections.Step} (hcall : call.step? = some step)
    {kernel : Kernel Session} (h : kernel.core.MayEnter) :
    ∃ sight, (tokensOf kernel).step step = some (sight, tokensOf (call.run kernel).2) ∧
      (call.run kernel).1 = .ofSight sight := by
  cases call with
  | enter =>
      cases hcall
      exact step_tokensOf_enter h
  | leave index =>
      cases hcall
      exact step_tokensOf_leave index kernel
  | _ => cases hcall

/-- Calls in a row are steps in a row, and the answers tell what is seen of them. -/
theorem run_tokensOf {calls : List InterruptCall} {steps : List Sections.Step}
    (hcalls : calls.map InterruptCall.step? = steps.map some) (site : Site) {start : UInt64}
    {kernel : Kernel Session} (h : Sections.Kept start (tokensOf kernel))
    (hfew : Sections.Few steps (tokensOf kernel)) :
    ∃ sights, Sections.run steps (tokensOf kernel) =
        some (sights, tokensOf (Call.runAll site (calls.map .interrupt) kernel).2) ∧
      (Call.runAll site (calls.map .interrupt) kernel).1 = sights.map .ofSight := by
  induction calls generalizing steps kernel with
  | nil =>
      rw [List.map_nil, eq_comm, List.map_eq_nil_iff] at hcalls
      subst hcalls
      exact ⟨[], rfl, rfl⟩
  | cons call rest ih =>
      obtain ⟨step, later, rfl, hcall, hrest⟩ := List.map_eq_cons_iff.1 hcalls.symm
      obtain ⟨sight, hstep, hanswer⟩ := step_tokensOf hcall.symm (h.mayEnter hfew.now)
      -- marking the point after the call changes neither the core nor the sections
      let after := (markPoint site.sweeping (call.run kernel).2).2
      have hstep : (tokensOf kernel).step step = some (sight, tokensOf after) := hstep
      obtain ⟨sights, hrun, hanswers⟩ :=
        ih hrest.symm (h.step hfew.now hstep) (hfew.next hstep)
      refine ⟨sight :: sights, ?_, ?_⟩
      · simp only [Sections.run, hstep, hrun, Option.bind_eq_bind, Option.bind_some]
        rfl
      · show (call.run kernel).1 :: (Call.runAll site (rest.map .interrupt) after).1 = _
        rw [hanswer, hanswers]
        rfl

/-! ## Steps -/

section Steps

variable {kernel after : Kernel Session}

/-- A step that keeps no other sections, and leaves the lock where the core may enter. -/
theorem upkeep_of_sections
    (hcore : kernel.core.MayEnter →
      after.core.lock = kernel.core.lock ∧ after.core.number = kernel.core.number)
    (hsections : after.client.sections = kernel.client.sections)
    (hscheduler : kernel.scheduler.Onward after.scheduler) :
    sectionCustody.Upkeep kernel after := by
  have hbefore (hfew : sectionCustody.Few after) : sectionCustody.Few kernel := by
    refine ⟨Nat.le_trans hscheduler.grows hfew.threads, ?_⟩
    have hclient : after.client.sections.length < 2 ^ 32 := hfew.client
    rw [hsections] at hclient
    exact hclient
  refine ⟨hbefore, fun hfew horderly ↦ ⟨hscheduler.inOrder horderly.scheduler, ?_⟩⟩
  obtain ⟨hlock, hnumber⟩ := hcore (horderly.mayEnter (hbefore hfew))
  show after.core.lock = .heldBy after.core.number after.client.entered
  rw [hlock, hnumber, Session.entered, hsections]
  exact horderly.core

theorem upkeep_of_apart (h : Apart kernel after) : sectionCustody.Upkeep kernel after :=
  upkeep_of_sections (fun _ ↦ ⟨h.lock, h.number⟩) h.sections (h.scheduler ▸ .refl _)

theorem upkeep_critical {α : Type} {body : ProgramM α}
    (h : ∀ kernel, Beside kernel (body kernel).2) (kernel : Kernel Session) :
    sectionCustody.Upkeep kernel (critical body kernel).2 := by
  have hbody := h (enter kernel).2
  refine upkeep_of_sections (fun hcore ↦ ?_) hbody.sections ?_
  · have hleft : (critical body kernel).2.core = kernel.core := by
      show (body (enter kernel).2).2.core.leave (enter kernel).1 = kernel.core
      rw [hbody.core]
      exact Core.leave_enter hcore
    exact ⟨congrArg Core.lock hleft, congrArg Core.number hleft⟩
  · show kernel.scheduler.Onward (body (enter kernel).2).2.scheduler
    rw [hbody.scheduler]
    exact .refl kernel.scheduler

/-- A section is entered and kept. -/
theorem upkeep_enter (kernel : Kernel Session) :
    sectionCustody.Upkeep kernel (InterruptCall.enter.run kernel).2 := by
  let after := (InterruptCall.enter.run kernel).2
  have hsections : after.client.sections = kernel.client.sections ++ [some (enter kernel).1] := rfl
  have hfew : sectionCustody.Few after → sectionCustody.Few kernel := by
    rintro ⟨hthreads, hclient⟩
    refine ⟨hthreads, Nat.lt_of_le_of_lt ?_ hclient⟩
    rw [hsections, List.length_append]
    exact Nat.le_add_right ..
  refine ⟨hfew, fun _ horderly ↦ ⟨horderly.scheduler, ?_⟩⟩
  have hlock : kernel.core.lock = .heldBy kernel.core.number kernel.client.entered := horderly.core
  show (kernel.core.lock.acquire? kernel.core.number).getD kernel.core.lock =
    .heldBy kernel.core.number after.client.entered
  rw [hlock, CoreLock.acquire?_heldBy, Option.getD_some, Session.entered, Session.entered,
    hsections, List.countP_append]
  rfl

/-- A section that is kept is left. -/
theorem upkeep_leave (index : Nat) (kernel : Kernel Session) :
    sectionCustody.Upkeep kernel ((InterruptCall.leave index).run kernel).2 := by
  simp only [InterruptCall.run, run_bind, run_get]
  rcases hkept : kernel.client.sections[index]? with _ | _ | entered
  · exact upkeep_of_apart (Beside.refl kernel).toApart
  · exact upkeep_of_apart (Beside.refl kernel).toApart
  · let left := kernel.client.sections.set index none
    have hfew : left.length < 2 ^ 32 → kernel.client.sections.length < 2 ^ 32 := by
      rw [List.length_set]
      exact fun h ↦ h
    refine ⟨fun h ↦ ⟨h.threads, hfew h.client⟩, fun h horderly ↦ ⟨horderly.scheduler, ?_⟩⟩
    have hone : left.countP Option.isSome + 1 = kernel.client.entered :=
      countP_set_none hkept
    have hlock : kernel.core.lock = .heldBy kernel.core.number kernel.client.entered :=
      horderly.core
    show kernel.core.lock.release = .heldBy kernel.core.number (left.countP Option.isSome)
    rw [hlock, ← hone]
    exact CoreLock.release_heldBy (Nat.lt_of_le_of_lt List.countP_le_length h.client) _

theorem upkeep_markPoint (sweeping : List ThreadId) (kernel : Kernel Session) :
    sectionCustody.Upkeep kernel (markPoint sweeping kernel).2 :=
  upkeep_of_sections (fun _ ↦ ⟨rfl, rfl⟩) rfl (.refl kernel.scheduler)

theorem upkeep_resetState (id : Option ThreadId) (mask : SignalSet) (capacity : Nat) (site : Site)
    (kernel : Kernel Session) :
    sectionCustody.Upkeep kernel ((SignalCall.resetState id mask capacity).run site kernel).2 := by
  have hreset (id : ThreadId) : sectionCustody.Keeps (withSignals id fun _ ↦
      (Answer.set (SignalState.ofMask mask capacity).blocked, .ofMask mask capacity)) :=
    Custody.keeps_withSignals id _
  cases id with
  | none =>
      have hkeeps := (Custody.keeps_readScheduler (·.currentThread)).bind fun caller ↦
        hreset caller.id
      exact hkeeps kernel
  | some id =>
      refine (Custody.keeps_readScheduler (·.threads.find? id)).bind (fun found ↦ ?_) kernel
      cases found with
      | none => exact Custody.keeps_pure _
      | some thread => exact hreset thread.id

end Steps

/-- All calls keep everything in order. -/
def keepingOrder : Discipline where
  allows _ := true
  holds _ := True
  leads := sectionCustody.Upkeep
  trans := Custody.Upkeep.trans
  handlers {kernel} _ := Handlers.every_true kernel.client.handlers
  apart h _ _ := ⟨trivial, upkeep_of_apart h⟩
  critical h kernel _ := ⟨trivial, upkeep_critical h kernel⟩
  operation hoperation hsink kernel _ := ⟨trivial, Custody.keeps_operation
    (fun id timing o kernel ↦ (hsink id timing o kernel trivial).2) hoperation kernel⟩
  setErrno id code kernel _ := ⟨trivial, Custody.keeps_setErrno id code kernel⟩
  resetState _ site kernel _ := ⟨trivial, upkeep_resetState _ _ _ site kernel⟩
  enter kernel _ := ⟨trivial, upkeep_enter kernel⟩
  leave index kernel _ := ⟨trivial, upkeep_leave index kernel⟩
  point sweeping kernel _ := ⟨trivial, upkeep_markPoint sweeping kernel⟩

/-- Whatever handlers do, the sink keeps everything in order. -/
theorem Site.Scripted.keepsOrder {site : Site} (h : site.Scripted) (id : ThreadId)
    (timing : Timing) (o : Occurrence) : sectionCustody.Keeps (site.sink id timing o) :=
  fun kernel ↦ (Discipline.keptBy_of_scripted (D := keepingOrder) h id timing o kernel trivial).2

/-- At the end of a program's run, the run queue is in order and the core's lock is held once for
each critical section that the program keeps. -/
theorem order_kept (program : Program) (hfew : sectionCustody.Few program.final) :
    sectionCustody.Orderly program.final := by
  have hevery : program.every keepingOrder.allows = true := program.every_true
  have hrun : sectionCustody.Upkeep program.blank program.final :=
    (Discipline.keeps_run hevery trivial).2
  exact hrun.orderly hfew ⟨Scheduler.inOrder_initial, rfl⟩

end SignalKernel.Program

namespace SignalKernel.Sections

open SignalKernel.Program

/-! ## Sections compose -/

/-- What holds of steps on a core that started at a depth without tokens. -/
structure SectionsCompose (start : UInt64) (steps : List Step) : Prop where
  /-- A core without the shared lock shows the same, and waits where this one waits. -/
  same : run steps ({ core := ⟨start⟩ } : Holder InterruptDepth) =
    (run steps { core := startingAt start }).map fun (sights, reached) ↦
      (sights, reached.withoutLock)
  /-- A program's calls take these steps, if none of them locks a cell. -/
  called : ∀ calls : List InterruptCall, calls.map InterruptCall.step? = steps.map some →
    ∀ site (kernel : Kernel Session), tokensOf kernel = { core := startingAt start } →
      ∃ sights, run steps { core := startingAt start } =
          some (sights, tokensOf (Call.runAll site (calls.map .interrupt) kernel).2) ∧
        (Call.runAll site (calls.map .interrupt) kernel).1 = sights.map .ofSight
  composed : ∀ sights reached, run steps { core := startingAt start } = some (sights, reached) →
    Composed start reached

/-- Critical sections compose, in whatever order they end. -/
theorem sections_compose (start : UInt64) (steps : List Step)
    (hfew : Few steps { core := startingAt start }) : SectionsCompose start steps where
  same := (Kept.fresh start).run_withoutLock hfew
  called calls hcalls site kernel hkernel := by
    rw [← hkernel] at hfew ⊢
    exact run_tokensOf hcalls site (hkernel ▸ Kept.fresh start) hfew
  composed sights reached hrun :=
    ((Kept.fresh start).run hfew hrun).composed (hfew steps List.prefix_rfl sights reached hrun)

/-- Two tokens, the first of which is dropped first. -/
def crossed : List Step :=
  [.take none, .take (some 7), .drop 0, .take none, .drop 1, .take (some 7), .drop 2, .drop 3]

theorem sections_compose_crossed :
    crossed.length < 2 ^ 32 ∧ SectionsCompose 0 crossed ∧
      (run crossed { core := startingAt 0 }).map Prod.fst = some
        [.taken true 1, .taken false 2, .dropped 1, .taken false 2, .dropped 1, .taken false 2,
          .dropped 1, .dropped 0] :=
  ⟨by decide, sections_compose 0 crossed (Few.of_length (by decide)), by decide⟩

/-- Where the depth comes round to 0, interrupts get through in a section. -/
theorem enabled_by_overflow :
    Few [.take none] { core := startingAt 18446744073709551615 } ∧ ∃ sights reached,
      run [.take none] { core := startingAt 18446744073709551615 } = some (sights, reached) ∧
      reached.live = 1 ∧ reached.core.interrupts.depth = 0 ∧
      InterruptControl.isEnabled reached.core.interrupts = true :=
  ⟨Few.of_length (by decide), _, _, rfl, rfl, by decide, by decide⟩

end SignalKernel.Sections
