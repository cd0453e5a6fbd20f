import SignalKernel.Proofs.Program.Tally

/-!
# Every occurrence is accounted for

As long as no thread's signals are replaced and the sink is not called directly, nothing that a run
posts is lost, doubled or altered. The main theorem, `occurrences_accounted`, gives the fate of
every post and, at every point of the run, what was posted to a thread in terms of what was
delivered to it and what it still has recorded: what was queued is delivered in that order or still
recorded, what was to be delivered at once was, and nothing else was delivered.
-/

namespace SignalKernel.Program

open SignalKernel.Kernel

/-- The call delivers only what was posted, and leaves every thread the signal state that it has. -/
def SignalCall.keepsBooks : SignalCall → Bool
  | .resetState .. | .deliver _ => false
  | _ => true

theorem keepsBooks_resetState (id : Option ThreadId) (mask : SignalSet) (capacity : Nat) :
    (SignalCall.resetState id mask capacity).keepsBooks = false :=
  rfl

/-- What was queued was delivered from the queue or is recorded, and what was to be delivered at
once was. -/
structure Balanced (history : List Moment) (v : Mailboxes) : Prop where
  queued : ∀ id signal, Tallied [.queued] [.deferred] id signal history v
  immediate : ∀ id signal,
    posted [.delivered] id signal history = delivered [.immediate] id signal history

namespace Balanced

variable {history : List Moment} {v v' : Mailboxes} {moment : Moment} {busy : List ThreadId}
  {id : ThreadId} {box : Mailbox} {o : Occurrence} {delivery : Delivery}

/-- The mailboxes may change as long as the records stay. -/
theorem of_records (h : Balanced history v)
    (hrecords : ∀ id signal, v'.records id signal = v.records id signal) : Balanced history v' where
  queued id signal := (h.queued id signal).of_records (hrecords id signal)
  immediate := h.immediate

/-- Moments that neither post nor deliver do not matter. -/
theorem concat (h : Balanced history v)
    (hposted : ∀ fates id signal, moment.posted? fates id signal = none)
    (hdelivered : ∀ timings id signal, moment.delivered? timings id signal = none) :
    Balanced (history ++ [moment]) v where
  queued id signal := (h.queued id signal).concat (hposted _ _ _) (hdelivered _ _ _)
  immediate id signal := by
    rw [posted_concat, delivered_concat, hposted, hdelivered, h.immediate]

theorem kept (h : Balanced history v) (hsound : v.Sound) (hbox : v id = some box)
    (houtcome : Post.outcome ⟨id, o, box.signals, busy⟩ ≠ .ok .delivered) :
    Balanced (history ++ [.posted ⟨id, o, box.signals, busy⟩])
      (Function.update v id (some { box with signals := (box.signals.receive o).2 })) where
  queued target signal :=
    (h.queued target signal).kept (by decide) (by decide) hsound hbox houtcome
  immediate target signal := by
    have hunlisted : (Moment.posted ⟨id, o, box.signals, busy⟩).posted? [.delivered] target signal =
        none := by
      refine posted?_eq_none target signal fun fate hmem ↦ ?_
      rw [List.mem_singleton.1 hmem]
      exact houtcome
    rw [posted_concat, delivered_concat, hunlisted, h.immediate]
    rfl

theorem handed (h : Balanced history v)
    (houtcome : Post.outcome ⟨id, o, box.signals, busy⟩ = .ok .delivered)
    (hdelivery : delivery.Is id .immediate o) :
    Balanced (history ++ [.posted ⟨id, o, box.signals, busy⟩] ++ [.delivered delivery]) v where
  queued target signal :=
    (h.queued target signal).handed_unlisted (by decide) (by decide) houtcome hdelivery
  immediate target signal := by
    rw [posted_concat, posted_concat, delivered_concat, delivered_concat, h.immediate,
      posted?_of_ok _ _ _ houtcome, delivered?_of_is _ _ _ hdelivery]
    simp [Moment.posted?, Moment.delivered?]

theorem taken (h : Balanced history v) (hbox : v id = some box) {signal : Nat}
    {left : SignalState} (htaken : box.signals.Taken signal o left)
    (hdelivery : delivery.Is id .deferred o) :
    Balanced (history ++ [.delivered delivery])
      (Function.update v id (some { box with signals := left })) where
  queued target signal := (h.queued target signal).taken (by decide) hbox htaken hdelivery
  immediate target signal := by
    rw [posted_concat, delivered_concat, delivered?_of_is _ _ _ hdelivery, h.immediate]
    simp [Moment.posted?]

end Balanced

/-- The chronicle of balances. -/
def ledger : Chronicle where
  allows := SignalCall.keepsBooks
  allows_reset := keepsBooks_resetState
  agree := Balanced
  mask mode set h hbox :=
    h.of_records fun id signal ↦
      Mailboxes.records_update_of_eq hbox (SignalState.records_changeMask _ mode set signal) id
  spawn config h hnone := h.of_records fun id _ ↦ Mailboxes.records_spawn hnone config id
  point _ _ h := h.concat (fun _ _ _ ↦ rfl) fun _ _ _ ↦ rfl
  swept _ _ _ h := h.concat (fun _ _ _ ↦ rfl) fun _ _ _ ↦ rfl
  kept hsound _ hbox houtcome h := h.kept hsound hbox houtcome
  handed _ _ _ houtcome h hdelivery := h.handed houtcome hdelivery
  taken _ h hbox htaken hdelivery := h.taken hbox htaken hdelivery
  bare _ hallowed _ := by cases hallowed

theorem balanced_initial : Balanced [] Chronicle.initial :=
  ⟨tallied_initial _ _, fun _ _ ↦ rfl⟩

/-! ## The fate of a post -/

/-- What becomes of a post of a signal, by what it finds. -/
theorem Post.outcome_of_valid {post : Post} (hq : post.found.queue.Sound)
    (hvalid : Signal.isValid post.occurrence.signal) :
    post.outcome =
      if post.occurrence.signal ∉ post.found.blocked then .ok .delivered
      else if post.found.Coalesces post.occurrence then .ok .coalesced
      else if post.found.queue.isFull then .error .queueFull
      else .ok .queued := by
  rw [Post.outcome, if_pos hvalid]
  exact SignalState.receive_outcome hq hvalid

section Answers

variable {γ : Type} {kernel : Kernel γ} {id : ThreadId} {box : Mailbox}

theorem post_answer (sink : Sink γ) (hbox : kernel.mailboxes id = some box) (o : Occurrence)
    (sweeping : List ThreadId) :
    (Kernel.post sink id o kernel).1 = Post.outcome ⟨id, o, box.signals, sweeping⟩ := by
  unfold Post.outcome
  cases hvalid : Signal.isValid o.signal with
  | true => exact post_outcome hbox hvalid
  | false =>
      rw [post_of_invalid hvalid]
      rfl

theorem send_answer (sink : Sink γ) (hbox : kernel.mailboxes id = some box)
    (occurrence : ThreadId → Occurrence) (hzero : (occurrence (current kernel).1.id).signal ≠ 0)
    (sweeping : List ThreadId) :
    (send sink id occurrence kernel).1 =
      (Post.outcome ⟨id, occurrence (current kernel).1.id, box.signals, sweeping⟩).map some := by
  obtain ⟨found, hfound, houtcome, -⟩ := (run_send sink id occurrence kernel).of_some hbox hzero
  rw [houtcome, post_answer sink ((congrFun hfound.mailboxes id).trans hbox)]

end Answers

/-! ## Accounts of runs -/

/-- What a history says of the occurrences of a run. The fate of a post depends on what it finds,
and is what the call is answered. At every point the lists of posts are made up of deliveries and
records. -/
structure Accounted (history : List Moment) : Prop where
  fates : ∀ post, .posted post ∈ history → Signal.isValid post.occurrence.signal →
    post.outcome =
      if post.occurrence.signal ∉ post.found.blocked then .ok .delivered
      else if post.found.Coalesces post.occurrence then .ok .coalesced
      else if post.found.queue.isFull then .error .queueFull
      else .ok .queued
  queued : ∀ before point after, history = before ++ .passed point :: after → ∀ id signal,
    posted [.queued] id signal before =
      delivered [.deferred] id signal before ++ point.scheduler.mailboxes.records id signal
  immediate : ∀ before point after, history = before ++ .passed point :: after → ∀ id signal,
    posted [.delivered] id signal before = delivered [.immediate] id signal before
  accepted : ∀ before point after, history = before ++ .passed point :: after → ∀ id signal,
    (posted [.delivered, .queued] id signal before).Perm
      (delivered [.immediate, .deferred] id signal before ++
        point.scheduler.mailboxes.records id signal)
  answers : ∀ {γ : Type} (sink : Sink γ) (kernel : Kernel γ) id thread,
    kernel.scheduler.threads.find? id = some thread →
      (∀ o sweeping,
        (Kernel.post sink id o kernel).1 = Post.outcome ⟨id, o, thread.signals, sweeping⟩) ∧
      ∀ occurrence sweeping, (occurrence (current kernel).1.id).signal ≠ 0 →
        (send sink id occurrence kernel).1 = (Post.outcome
          ⟨id, occurrence (current kernel).1.id, thread.signals, sweeping⟩).map some

/-- Everything that was posted and not refused or merged was delivered or is recorded. -/
theorem Balanced.accepted {history : List Moment} {v : Mailboxes} (h : Balanced history v)
    (id : ThreadId) (signal : Nat) : (posted [.delivered, .queued] id signal history).Perm
      (delivered [.immediate, .deferred] id signal history ++ v.records id signal) := by
  have hposted : (posted [.delivered, .queued] id signal history).Perm
      (posted [.delivered] id signal history ++ posted [.queued] id signal history) :=
    posted_cons_perm (by decide) id signal history
  have hdelivered : (delivered [.immediate, .deferred] id signal history).Perm
      (delivered [.immediate] id signal history ++ delivered [.deferred] id signal history) :=
    delivered_cons_perm (by decide) id signal history
  -- both sides are the immediate and the deferred deliveries, and then the records
  rw [h.immediate, h.queued, ← List.append_assoc] at hposted
  exact hposted.trans (hdelivered.symm.append_right _)

/-- Whatever calls a program and its handlers make, as long as none of them replaces a thread's
signal state or calls the sink itself: no occurrence is lost, doubled or altered. -/
theorem occurrences_accounted (program : Program)
    (h : program.only SignalCall.keepsBooks = true) : Accounted program.history := by
  have hpast := ledger.past h balanced_initial
  constructor
  case fates =>
    intro post hmem hvalid
    exact Post.outcome_of_valid (hpast.calm (.posted post) hmem).1 hvalid
  case queued =>
    intro before point after hsplit
    exact (hpast.points before point after hsplit).queued
  case immediate =>
    intro before point after hsplit
    exact (hpast.points before point after hsplit).immediate
  case accepted =>
    intro before point after hsplit
    exact (hpast.points before point after hsplit).accepted
  case answers =>
    intro γ sink kernel id thread hthread
    obtain ⟨-, hbox⟩ := mailboxes_of_find? hthread
    refine ⟨fun o sweeping ↦ ?_, fun occurrence sweeping hzero ↦ ?_⟩
    · rw [post_answer sink hbox o sweeping]
      rfl
    · rw [send_answer sink hbox occurrence hzero sweeping]
      rfl

/-- Posts to a thread with two slots that meet every fate, and then a sweep whose first delivery has
a handler that posts once more. -/
def everyFate : Program where
  handlers := [(10, [[.signal (.sigqueue 1 34 6)]])]
  calls := [
    .scheduling (.spawn { pendingCapacity := 2, initialMask := .ofList [10, 34] }),
    .signal (.kill 1 10),
    .signal (.sigqueue 1 10 2),
    .signal (.sigqueue 1 34 3),
    .signal (.post (some 1) (.carrying 34 0 4)),
    .signal (.post (some 1) (.carrying 12 0 5)),
    .signal (.changeMask (some 1) MaskMode.unblock.code (some (.ofList [10, 34])) false)]

/-- The fates of the posts of a history; a refused one has none. -/
def fates (history : List Moment) : List (Option Fate) :=
  history.filterMap fun
    | .posted post => some post.fate?
    | _ => none

theorem occurrences_accounted_everyFate :
    everyFate.only SignalCall.keepsBooks = true ∧
      fates everyFate.history = [some .queued, some .coalesced, some .queued, none, some .delivered,
        some .delivered] ∧ Accounted everyFate.history :=
  ⟨by decide, by decide +kernel, occurrences_accounted everyFate (by decide)⟩

end SignalKernel.Program
