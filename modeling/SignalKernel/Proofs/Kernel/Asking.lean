import SignalKernel.Proofs.Kernel.Sending

/-!
# Calls on masks that change nothing

A call on a mask that gives no set only asks for the mask, and a call with a set and a number that
is no mode's is refused. Neither changes any thread's mask or queue or delivers anything, though
both take the scheduler lock and give it back, which may let another thread run. The main statements
are `asks` and, for the entry point, `callerAsks`: its error goes to the thread that made the call.
-/

namespace SignalKernel.Kernel

variable {γ : Type}

/-- A call on a mask with a set and a number that is no mode's. -/
def IsRefused (how : Int) (set : Option SignalSet) : Prop :=
  set.isSome ∧ how ≠ 0 ∧ how ≠ 1 ∧ how ≠ 2

instance (how : Int) (set : Option SignalSet) : Decidable (IsRefused how set) :=
  inferInstanceAs (Decidable (_ ∧ _))

/-- What a call on a thread's mask comes to, as far as it changes nothing. -/
structure Asks (kernel : Kernel γ) (id : ThreadId) (thread : Thread) (how : Int)
    (set : Option SignalSet) : Prop where
  /-- The mask is told that the call found, whatever becomes of the call. -/
  old : ∀ sink, (changeMask sink id how set kernel).1.old = thread.signals.blocked
  failed : ∀ sink error, (changeMask sink id how set kernel).1.outcome = .error error ↔
    error = .invalidMode ∧ IsRefused how set
  /-- A call that is refused or only asks leaves all threads as they were, and no sink has a part
  in it. -/
  kept : set = none ∨ IsRefused how set →
    ∃ reply after, (∀ sink, changeMask sink id how set kernel = (reply, after)) ∧
      after.client = kernel.client ∧
      ∀ other, after.scheduler.threads.find? other = kernel.scheduler.threads.find? other

/-- What the running thread's call on its mask comes to, as far as it changes nothing. -/
structure CallerAsks (kernel : Kernel γ) (how : Int) (set : Option SignalSet) : Prop where
  old : ∀ sink,
    (sigprocmask sink how set kernel).1.old = kernel.scheduler.currentThread.signals.blocked
  status : ∀ sink, (Status.ofOutcome (sigprocmask sink how set kernel).1.outcome).code =
    if IsRefused how set then -1 else 0
  asked : set = none →
    ∃ reply after, (∀ sink, sigprocmask sink how set kernel = (reply, after)) ∧
      after.client = kernel.client ∧
      ∀ other, after.scheduler.threads.find? other = kernel.scheduler.threads.find? other
  /-- The code of the error is left with the thread that made the call, even if another thread runs
  when the call ends, and that is all. -/
  refused : IsRefused how set →
    ∃ reply after, (∀ sink, sigprocmask sink how set kernel = (reply, after)) ∧
      after.client = kernel.client ∧
      ∀ other, after.scheduler.threads.find? other =
        (kernel.scheduler.threads.find? other).map fun thread ↦
          if other = kernel.scheduler.currentThread.id then
            { thread with errno := 22 }
          else thread
  /-- A call that is not refused leaves no code anywhere: it is the change of the mask alone. -/
  unreported : ¬ IsRefused how set →
    ∃ read, Same kernel read ∧
      ∀ sink, sigprocmask sink how set kernel =
        changeMask sink kernel.scheduler.currentThread.id how set read

/-! ## Requests -/

section Request

variable {how : Int} {set : Option SignalSet}

/-- A request fails exactly if it is refused. -/
theorem requestMask_outcome (sink : Sink γ) (id : ThreadId) (old : SignalSet) (kernel : Kernel γ) :
    (requestMask sink id old how set kernel).1 =
      if IsRefused how set then .error .invalidMode else .ok () := by
  cases set with
  | none => rfl
  | some set =>
      rw [requestMask]
      by_cases hrefused : how ≠ 0 ∧ how ≠ 1 ∧ how ≠ 2
      · rw [if_pos ⟨rfl, hrefused⟩, MaskMode.ofCode_eq_error_iff.2 hrefused]
        rfl
      · rw [if_neg fun h ↦ hrefused h.2]
        cases hcode : MaskMode.ofCode how with
        | ok mode => rfl
        | error error =>
            cases error
            exact absurd (MaskMode.ofCode_eq_error_iff.1 hcode) hrefused

/-- A request that is refused or only asks does at most log. -/
theorem requestMask_kept (h : set = none ∨ IsRefused how set) (id : ThreadId) (old : SignalSet)
    (kernel : Kernel γ) :
    ∃ after, Same kernel after ∧
      ∀ sink : Sink γ, (requestMask sink id old how set kernel).2 = after := by
  rcases h with rfl | ⟨hset, hrefused⟩
  · exact ⟨kernel, .refl kernel, fun _ ↦ rfl⟩
  · obtain ⟨set, rfl⟩ := Option.isSome_iff_exists.1 hset
    refine ⟨(notify (.modeRefused how id) kernel).2, same_notify _ kernel, fun sink ↦ ?_⟩
    rw [requestMask, MaskMode.ofCode_eq_error_iff.2 hrefused]
    rfl

end Request

/-! ## Calls -/

section Call

variable {kernel : Kernel γ} {id : ThreadId} {thread : Thread}

/-- A call on a thread's mask fails exactly if it is refused. -/
theorem outcome_changeMask (hthread : kernel.scheduler.threads.find? id = some thread)
    (sink : Sink γ) (how : Int) (set : Option SignalSet) :
    (changeMask sink id how set kernel).1.outcome =
      if IsRefused how set then .error .invalidMode else .ok () := by
  obtain ⟨read, -, -, -, hrun⟩ := run_changeMask hthread
  rw [hrun, requestMask_outcome]

/-- What a call on a thread's mask tells, and what it leaves if it is refused or only asks. -/
theorem asks (hthread : kernel.scheduler.threads.find? id = some thread) (how : Int)
    (set : Option SignalSet) : Asks kernel id thread how set := by
  obtain ⟨read, hread, hothers, hclient, hrun⟩ := run_changeMask hthread
  constructor
  case old =>
    intro sink
    rw [hrun]
  case failed =>
    intro sink error
    rw [outcome_changeMask hthread]
    split
    case isTrue hrefused => simp [hrefused]
    case isFalse hrefused => exact iff_of_false (by simp) fun h ↦ hrefused h.2
  case kept =>
    intro hkept
    obtain ⟨asked, hasked, hrequest⟩ := requestMask_kept hkept id thread.signals.blocked read
    rw [← hasked.scheduler] at hread
    obtain ⟨hfound, hothers'⟩ := find?_unlockScheduler hread
    refine ⟨⟨thread.signals.blocked, if IsRefused how set then .error .invalidMode else .ok ()⟩,
      (unlockScheduler id asked).2, fun sink ↦ ?_, ?_, fun other ↦ ?_⟩
    · rw [hrun, hrequest, requestMask_outcome]
    · rw [(run_unlockScheduler id asked).2, hasked.client, hclient]
    · by_cases hother : other = id
      · rw [hother, hfound, hthread]
        simp
      · rw [hothers' other hother, hasked.scheduler, hothers other hother]

end Call

/-! ## The entry point -/

/-- The running thread's call is a call on its mask, whose error is left with that thread. -/
theorem sigprocmask_of_changeMask {sink : Sink γ} {how : Int} {set : Option SignalSet}
    {kernel after : Kernel γ} {reply : MaskReply}
    (h : changeMask sink kernel.scheduler.currentThread.id how set (current kernel).2 =
      (reply, after)) :
    sigprocmask sink how set kernel =
      (reply, (storeErrno kernel.scheduler.currentThread.id MaskError.errno reply.outcome
        after).2) := by
  have hcaller : (current kernel).1 = kernel.scheduler.currentThread := rfl
  simp only [sigprocmask, run_bind, run_pure, hcaller, h]

theorem outcome_sigprocmask (sink : Sink γ) (how : Int) (set : Option SignalSet)
    (kernel : Kernel γ) :
    (sigprocmask sink how set kernel).1.outcome =
      if IsRefused how set then .error .invalidMode else .ok () := by
  have hcaller : (current kernel).2.scheduler.threads.find? kernel.scheduler.currentThread.id =
      some kernel.scheduler.currentThread := find?_currentThread kernel
  rw [sigprocmask_of_changeMask Prod.mk.eta.symm]
  exact outcome_changeMask hcaller sink how set

/-- What the running thread's call on its mask tells, and what it leaves if it is refused or only
asks. -/
theorem callerAsks (kernel : Kernel γ) (how : Int) (set : Option SignalSet) :
    CallerAsks kernel how set := by
  let caller := kernel.scheduler.currentThread
  have hread : Same kernel (current kernel).2 := same_readScheduler _ kernel
  have hcaller : (current kernel).2.scheduler.threads.find? caller.id = some caller :=
    find?_currentThread kernel
  obtain ⟨hold, -, hkept⟩ := asks hcaller how set
  have houtcome (sink : Sink γ) : (changeMask sink caller.id how set (current kernel).2).1.outcome =
      if IsRefused how set then .error .invalidMode else .ok () :=
    outcome_changeMask hcaller sink how set
  have hunreported (sink : Sink γ) (h : ¬ IsRefused how set) :
      sigprocmask sink how set kernel =
        changeMask sink caller.id how set (current kernel).2 := by
    rw [sigprocmask_of_changeMask Prod.mk.eta.symm, houtcome, if_neg h]
    rfl
  constructor
  case old => exact hold
  case status =>
    intro sink
    rw [outcome_sigprocmask]
    split <;> rfl
  case asked =>
    intro hset
    obtain ⟨reply, after, hrun, hclient, hthreads⟩ := hkept (.inl hset)
    refine ⟨reply, after, fun sink ↦ ?_, hclient, hthreads⟩
    rw [hunreported sink (by simp [hset, IsRefused]), hrun]
  case refused =>
    intro h
    obtain ⟨reply, after, hrun, hclient, hthreads⟩ := hkept (.inr h)
    have hreply : reply.outcome = .error .invalidMode := by
      have hrefused := houtcome discarding
      rwa [hrun, if_pos h] at hrefused
    have hreported := after.scheduler.reports_setErrno caller.id Errno.invalidArgument
    refine ⟨reply, (storeErrno caller.id MaskError.errno reply.outcome after).2, fun sink ↦ ?_,
      ?_, fun other ↦ ?_⟩
    · exact sigprocmask_of_changeMask (hrun sink)
    · rw [hreply]
      exact hclient
    · rw [hreply]
      exact (hreported.threads other).trans (congrArg _ (hthreads other))
  case unreported => exact fun h ↦ ⟨_, hread, fun sink ↦ hunreported sink h⟩

/-- A refused call leaves the code of its error with the thread that made it. -/
theorem errno_sigprocmask {how : Int} {set : Option SignalSet} (h : IsRefused how set)
    (sink : Sink γ) (kernel : Kernel γ) :
    ((sigprocmask sink how set kernel).2.thread kernel.scheduler.currentThread.id).errno = 22 := by
  let caller := kernel.scheduler.currentThread
  obtain ⟨reply, after, hrun, -, hthreads⟩ := (callerAsks kernel how set).refused h
  have hafter : after.scheduler.threads.find? caller.id = some { caller with errno := 22 } := by
    rw [hthreads caller.id, find?_currentThread kernel]
    exact congrArg some (if_pos rfl)
  rw [hrun sink, Kernel.thread, ThreadTable.get, hafter]
  rfl

end SignalKernel.Kernel
