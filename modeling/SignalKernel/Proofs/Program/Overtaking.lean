import SignalKernel.Proofs.Program.Ledger

/-!
# When a post overtakes pending records

Whether a post is delivered at once depends on the mask alone. In the middle of a sweep a signal
may be unblocked and still have records, and a post of it that a handler makes then is delivered
before them. The main theorem, `order_unless_overtaken`, says that this is the only way in which
occurrences of one signal can be delivered in another order than they were posted to a thread, and
that any other post that finds records of its signal is merged or stands behind them.
-/

namespace SignalKernel.Program

open SignalKernel.Kernel

/-- The post finds records of its signal, but its signal is not blocked. -/
structure Post.Overtakes (post : Post) : Prop where
  waiting : post.found.records post.occurrence.signal ≠ []
  not_blocked : post.occurrence.signal ∉ post.found.blocked

/-- No post of the signal to the thread overtook. -/
def NoneOvertakes (id : ThreadId) (signal : Nat) (history : List Moment) : Prop :=
  ∀ post, .posted post ∈ history → post.id = id → post.occurrence.signal = signal →
    ¬ post.Overtakes

theorem NoneOvertakes.init {id : ThreadId} {signal : Nat} {history : List Moment} {moment : Moment}
    (h : NoneOvertakes id signal (history ++ [moment])) : NoneOvertakes id signal history :=
  fun post hmem ↦ h post (List.mem_append_left _ hmem)

/-! ## What becomes of a post that finds records -/

section Fates

variable {post : Post} (hq : post.found.queue.Sound)
include hq

/-- A signal that has records is a signal. -/
theorem Post.valid_of_waiting (hwaiting : post.found.records post.occurrence.signal ≠ []) :
    Signal.isValid post.occurrence.signal = true :=
  SignalSet.isValid_of_mem ((SignalState.mem_pending hq).2 hwaiting)

theorem Post.Overtakes.outcome (h : post.Overtakes) : post.outcome = .ok .delivered := by
  rw [Post.outcome_of_valid hq (Post.valid_of_waiting hq h.waiting), if_pos h.not_blocked]

/-- Of a standard signal, one more occurrence than is recorded is merged. -/
theorem Post.outcome_of_standard (hwaiting : post.found.records post.occurrence.signal ≠ [])
    (h : ¬ post.Overtakes) (hstandard : Signal.isRealtime post.occurrence.signal = false) :
    post.outcome = .ok .coalesced := by
  have hblocked : ¬ post.occurrence.signal ∉ post.found.blocked := fun hfree ↦ h ⟨hwaiting, hfree⟩
  rw [Post.outcome_of_valid hq (Post.valid_of_waiting hq hwaiting), if_neg hblocked,
    if_pos ⟨hstandard, hwaiting⟩]

/-- Of a realtime signal, it is recorded unless all slots are in use. -/
theorem Post.outcome_of_realtime (hwaiting : post.found.records post.occurrence.signal ≠ [])
    (h : ¬ post.Overtakes) (hrealtime : Signal.isRealtime post.occurrence.signal = true) :
    post.outcome = if post.found.queue.isFull then .error .queueFull else .ok .queued := by
  have hblocked : ¬ post.occurrence.signal ∉ post.found.blocked := fun hfree ↦ h ⟨hwaiting, hfree⟩
  have hcoalesces : ¬ post.found.Coalesces post.occurrence := by
    rintro ⟨hstandard, -⟩
    rw [hrealtime] at hstandard
    cases hstandard
  rw [Post.outcome_of_valid hq (Post.valid_of_waiting hq hwaiting), if_neg hblocked,
    if_neg hcoalesces]

end Fates

/-! ## Handing over -/

/-- Each post that is delivered at once is followed by its delivery. -/
def HandsOver (history : List Moment) : Prop :=
  ∀ before post after, history = before ++ .posted post :: after → post.outcome = .ok .delivered →
    ∃ delivery rest, after = .delivered delivery :: rest ∧
      delivery.Is post.id .immediate post.occurrence

namespace HandsOver

variable {history : List Moment} {moment : Moment}

theorem concat (h : HandsOver history)
    (hmoment : ∀ post, moment = .posted post → post.outcome ≠ .ok .delivered) :
    HandsOver (history ++ [moment]) := by
  intro before post after hsplit houtcome
  rcases concat_split hsplit with ⟨-, hlast, -⟩ | ⟨earlier, hearlier, rfl⟩
  · exact absurd houtcome (hmoment post hlast)
  · obtain ⟨delivery, rest, rfl, hdelivery⟩ := h before post earlier hearlier houtcome
    exact ⟨delivery, rest ++ [moment], rfl, hdelivery⟩

theorem handed (h : HandsOver history) {post : Post} {delivery : Delivery}
    (hdelivery : delivery.Is post.id .immediate post.occurrence) :
    HandsOver (history ++ [.posted post] ++ [.delivered delivery]) := by
  intro before other after hsplit houtcome
  rcases concat_split hsplit with ⟨-, hlast, -⟩ | ⟨earlier, hearlier, rfl⟩
  · cases hlast
  · rcases concat_split hearlier with ⟨-, hpost, rfl⟩ | ⟨sooner, hsooner, rfl⟩
    · cases hpost
      exact ⟨delivery, [], rfl, hdelivery⟩
    · obtain ⟨found, rest, rfl, hfound⟩ := h before other sooner hsooner houtcome
      exact ⟨found, rest ++ [.posted post] ++ [.delivered delivery], by simp, hfound⟩

end HandsOver

/-! ## The order of deliveries -/

/-- Unless a post overtook, what was accepted was delivered in order or is recorded. -/
structure InOrder (history : List Moment) (v : Mailboxes) : Prop where
  order : ∀ id signal, NoneOvertakes id signal history →
    Tallied [.delivered, .queued] [.immediate, .deferred] id signal history v
  handsOver : HandsOver history

namespace InOrder

variable {history : List Moment} {v v' : Mailboxes} {moment : Moment} {busy : List ThreadId}
  {id : ThreadId} {box : Mailbox} {o : Occurrence} {delivery : Delivery}

theorem of_records (h : InOrder history v)
    (hrecords : ∀ id signal, v'.records id signal = v.records id signal) : InOrder history v' where
  order id signal hnone := (h.order id signal hnone).of_records (hrecords id signal)
  handsOver := h.handsOver

theorem concat (h : InOrder history v) (hposted : ∀ post, moment ≠ .posted post)
    (hdelivered : ∀ delivery, moment ≠ .delivered delivery) : InOrder (history ++ [moment]) v where
  order id signal hnone := by
    cases moment with
    | posted post => exact absurd rfl (hposted post)
    | delivered delivery => exact absurd rfl (hdelivered delivery)
    | passed | swept => exact (h.order id signal hnone.init).concat rfl rfl
  handsOver := h.handsOver.concat fun post hpost ↦ absurd hpost (hposted post)

theorem kept (h : InOrder history v) (hsound : v.Sound) (hbox : v id = some box)
    (houtcome : Post.outcome ⟨id, o, box.signals, busy⟩ ≠ .ok .delivered) :
    InOrder (history ++ [.posted ⟨id, o, box.signals, busy⟩])
      (Function.update v id (some { box with signals := (box.signals.receive o).2 })) where
  order target signal hnone :=
    (h.order target signal hnone.init).kept (by decide) (by decide) hsound hbox houtcome
  handsOver := by
    refine h.handsOver.concat fun post hpost ↦ ?_
    cases hpost
    exact houtcome

/-- A post that does not overtake and is delivered at once finds no records. -/
theorem handed (h : InOrder history v) (hbox : v id = some box)
    (houtcome : Post.outcome ⟨id, o, box.signals, busy⟩ = .ok .delivered)
    (hdelivery : delivery.Is id .immediate o) :
    InOrder (history ++ [.posted ⟨id, o, box.signals, busy⟩] ++ [.delivered delivery]) v where
  order target signal hnone := by
    refine (h.order target signal hnone.init.init).handed_listed (by decide) (by decide) houtcome
      hdelivery fun htarget hsignal ↦ ?_
    subst htarget hsignal
    -- it is one of the posts that do not overtake, and its signal is not blocked
    have hwaits := hnone.init ⟨id, o, box.signals, busy⟩ (List.mem_append_right _ (by simp)) rfl rfl
    have hfree := SignalState.not_blocked_of_delivered (Post.outcome_eq_ok_iff.1 houtcome).2
    rw [Mailboxes.records_of_some hbox]
    exact not_not.1 fun hwaiting ↦ hwaits ⟨hwaiting, hfree⟩
  handsOver := h.handsOver.handed hdelivery

theorem taken (h : InOrder history v) (hbox : v id = some box) {signal : Nat}
    {left : SignalState} (htaken : box.signals.Taken signal o left)
    (hdelivery : delivery.Is id .deferred o) :
    InOrder (history ++ [.delivered delivery])
      (Function.update v id (some { box with signals := left })) where
  order target signal hnone :=
    (h.order target signal hnone.init).taken (by decide) hbox htaken hdelivery
  handsOver := h.handsOver.concat fun _ hpost ↦ by cases hpost

end InOrder

/-- The chronicle of the order of deliveries. -/
def inOrder : Chronicle where
  allows := SignalCall.keepsBooks
  allows_reset := keepsBooks_resetState
  agree := InOrder
  mask mode set h hbox :=
    h.of_records fun id signal ↦
      Mailboxes.records_update_of_eq hbox (SignalState.records_changeMask _ mode set signal) id
  spawn config h hnone := h.of_records fun id _ ↦ Mailboxes.records_spawn hnone config id
  point _ _ h := h.concat (fun _ h ↦ by cases h) fun _ h ↦ by cases h
  swept _ _ _ h := h.concat (fun _ h ↦ by cases h) fun _ h ↦ by cases h
  kept hsound _ hbox houtcome h := h.kept hsound hbox houtcome
  handed _ _ hbox houtcome h hdelivery := h.handed hbox houtcome hdelivery
  taken _ h hbox htaken hdelivery := h.taken hbox htaken hdelivery
  bare _ hallowed _ := by cases hallowed

/-- What a history says of the order in which occurrences are posted and delivered. -/
structure Ordered (history : List Moment) : Prop where
  /-- A post overtakes only in the middle of a sweep of the thread. It is delivered at once then,
  with the records that it found still waiting. -/
  overtaking : ∀ before post after, history = before ++ .posted post :: after → post.Overtakes →
    post.id ∈ post.sweeping ∧ post.outcome = .ok .delivered ∧
      ∃ delivery rest, after = .delivered delivery :: rest ∧
        delivery.Is post.id .immediate post.occurrence
  /-- Any other post of a standard signal that finds a record is merged. -/
  standard : ∀ post, .posted post ∈ history → ¬ post.Overtakes →
    post.found.records post.occurrence.signal ≠ [] →
      Signal.isRealtime post.occurrence.signal = false → post.outcome = .ok .coalesced
  /-- Any other post of a realtime signal that finds records is queued or refused. -/
  realtime : ∀ post, .posted post ∈ history → ¬ post.Overtakes →
    post.found.records post.occurrence.signal ≠ [] →
      Signal.isRealtime post.occurrence.signal = true →
        post.outcome = if post.found.queue.isFull then .error .queueFull else .ok .queued
  /-- What is queued is delivered after everything that was queued earlier. -/
  queued : ∀ before point after, history = before ++ .passed point :: after → ∀ id signal,
    posted [.queued] id signal before =
      delivered [.deferred] id signal before ++ point.scheduler.mailboxes.records id signal
  /-- As long as no post overtakes, occurrences are delivered in the order in which they were
  posted. -/
  order : ∀ before point after, history = before ++ .passed point :: after → ∀ id signal,
    NoneOvertakes id signal before →
      posted [.delivered, .queued] id signal before =
        delivered [.immediate, .deferred] id signal before ++
          point.scheduler.mailboxes.records id signal

/-- Whatever calls a program and its handlers make, as long as none of them replaces a thread's
signal state or calls the sink itself: only posts that overtake change the order. -/
theorem order_unless_overtaken (program : Program)
    (h : program.only SignalCall.keepsBooks = true) : Ordered program.history := by
  have hinitial : InOrder [] Chronicle.initial := by
    refine ⟨fun id signal _ ↦ tallied_initial _ _ id signal, fun before post after hsplit _ ↦ ?_⟩
    exact absurd hsplit.symm (List.append_ne_nil_of_right_ne_nil _ (List.cons_ne_nil _ _))
  have hpast := inOrder.past h hinitial
  have hfinal : InOrder program.history program.final.mailboxes := inOrder.final_agree h hinitial
  have hfound {post : Post} (hmem : .posted post ∈ program.history) :
      post.found.queue.Sound ∧ (post.id ∉ post.sweeping → post.found.Settled) :=
    hpast.calm (.posted post) hmem
  constructor
  case overtaking =>
    intro before post after hsplit hovertakes
    have hmem : .posted post ∈ program.history := by
      rw [hsplit]
      exact List.mem_append_right _ (List.mem_cons_self ..)
    obtain ⟨hq, hsettled⟩ := hfound hmem
    have houtcome := hovertakes.outcome hq
    refine ⟨?_, houtcome, hfinal.handsOver before post after hsplit houtcome⟩
    -- outside of a sweep, what has records is blocked
    by_contra hidle
    rcases hsettled hidle post.occurrence.signal with hblocked | hempty
    · exact hovertakes.not_blocked hblocked
    · exact hovertakes.waiting hempty
  case standard =>
    intro post hmem hwaits hwaiting hstandard
    exact Post.outcome_of_standard (hfound hmem).1 hwaiting hwaits hstandard
  case realtime =>
    intro post hmem hwaits hwaiting hrealtime
    exact Post.outcome_of_realtime (hfound hmem).1 hwaiting hwaits hrealtime
  case queued =>
    intro before point after hsplit
    exact ((ledger.past h balanced_initial).points before point after hsplit).queued
  case order =>
    intro before point after hsplit
    exact (hpast.points before point after hsplit).order

/-- Two records of a realtime signal are swept, and the handler of the first one posts a third
occurrence, which is delivered before the second record. -/
def thirdOvertakes : Program where
  handlers := [(34, [[.signal (.sigqueue 1 34 3)]])]
  calls := [
    .scheduling (.spawn { pendingCapacity := 2, initialMask := .ofList [34] }),
    .signal (.sigqueue 1 34 1),
    .signal (.sigqueue 1 34 2),
    .signal (.changeMask (some 1) MaskMode.unblock.code (some (.ofList [34])) false)]

theorem order_unless_overtaken_third :
    thirdOvertakes.only SignalCall.keepsBooks = true ∧
      (posted [.delivered, .queued] 1 34 thirdOvertakes.history).map (·.value) = [1, 2, 3] ∧
      (delivered [.immediate, .deferred] 1 34 thirdOvertakes.history).map (·.value) = [1, 3, 2] ∧
      Ordered thirdOvertakes.history :=
  ⟨by decide, by decide +kernel, by decide +kernel,
    order_unless_overtaken thirdOvertakes (by decide)⟩

end SignalKernel.Program
