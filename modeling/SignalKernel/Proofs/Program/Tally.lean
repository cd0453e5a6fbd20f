import SignalKernel.Proofs.Program.Chronicle

/-!
# Counting posts and deliveries

For a thread and a signal, a history has two lists of occurrences: those that were posted and met
certain fates, and those that were delivered at certain times. `Tallied` says that the posts are the
deliveries followed by what the thread has recorded, and its lemmas say which moments of a run keep
this. Nothing but moments of the same thread and the same signal changes the two lists.
-/

namespace SignalKernel

/-- The records of a thread's signal, the oldest first. A thread that does not exist has none. -/
def Mailboxes.records (v : Mailboxes) (id : ThreadId) (signal : Nat) : List Occurrence :=
  ((v id).map (·.signals.records signal)).getD []

namespace Mailboxes

variable {v : Mailboxes} {id other : ThreadId} {box : Mailbox} {s : SignalState} {signal : Nat}

theorem records_of_some (h : v id = some box) :
    v.records id signal = box.signals.records signal := by
  rw [records, h]
  rfl

theorem records_update_self (box : Mailbox) :
    records (Function.update v id (some box)) id signal = box.signals.records signal :=
  records_of_some (Function.update_self ..)

theorem records_update_of_ne (h : other ≠ id) (box : Mailbox) :
    records (Function.update v id (some box)) other signal = v.records other signal := by
  rw [records, Function.update_of_ne h]
  rfl

/-- A change of one mailbox that keeps a signal's records keeps them everywhere. -/
theorem records_update_of_eq (hbox : v id = some box)
    (h : s.records signal = box.signals.records signal) (other : ThreadId) :
    records (Function.update v id (some { box with signals := s })) other signal =
      v.records other signal := by
  by_cases hother : other = id
  · subst hother
    rw [records_update_self, records_of_some hbox]
    exact h
  · exact records_update_of_ne hother _

/-- A new thread has no records. -/
theorem records_spawn (h : v id = none) (config : ThreadConfig) (other : ThreadId) :
    records (Function.update v id (some (Thread.ofConfig id config).mailbox)) other signal =
      v.records other signal := by
  by_cases hother : other = id
  · subst hother
    rw [records_update_self, records, h]
    exact SignalState.records_ofMask _ _ signal
  · exact records_update_of_ne hother _

end Mailboxes

namespace Program

/-- The fate of a post that is not refused. -/
def Post.fate? (post : Post) : Option Fate :=
  post.outcome.toOption

/-- The occurrence that a moment posts to a thread, if it is one of the signal and meets one of the
fates. -/
def Moment.posted? (fates : List Fate) (id : ThreadId) (signal : Nat) : Moment → Option Occurrence
  | .posted post =>
      if post.id = id ∧ post.occurrence.signal = signal ∧ ∃ fate ∈ fates, post.fate? = some fate
      then some post.occurrence else none
  | _ => none

/-- The occurrence that a moment delivers to a thread, if it is one of the signal at one of the
times. -/
def Moment.delivered? (timings : List Timing) (id : ThreadId) (signal : Nat) :
    Moment → Option Occurrence
  | .delivered delivery =>
      if delivery.id = id ∧ delivery.occurrence.signal = signal ∧ delivery.timing ∈ timings
      then some delivery.occurrence else none
  | _ => none

/-- The occurrences of a signal that were posted to a thread and met one of the fates, in order. -/
def posted (fates : List Fate) (id : ThreadId) (signal : Nat) (history : List Moment) :
    List Occurrence :=
  history.filterMap (Moment.posted? fates id signal)

/-- The occurrences of a signal that were delivered to a thread at one of the times, in order. -/
def delivered (timings : List Timing) (id : ThreadId) (signal : Nat) (history : List Moment) :
    List Occurrence :=
  history.filterMap (Moment.delivered? timings id signal)

/-- The posts of these fates are the deliveries at these times, followed by the records. -/
def Tallied (fates : List Fate) (timings : List Timing) (id : ThreadId) (signal : Nat)
    (history : List Moment) (v : Mailboxes) : Prop :=
  posted fates id signal history = delivered timings id signal history ++ v.records id signal

variable {fates : List Fate} {timings : List Timing} {id target : ThreadId} {signal : Nat}
  {history : List Moment} {moment : Moment} {v : Mailboxes} {box : Mailbox} {o : Occurrence}
  {busy : List ThreadId}

/-! ## One more moment -/

theorem posted_concat (fates : List Fate) (id : ThreadId) (signal : Nat) (history : List Moment)
    (moment : Moment) : posted fates id signal (history ++ [moment]) =
      posted fates id signal history ++ (moment.posted? fates id signal).toList := by
  unfold posted
  rw [List.filterMap_append]
  cases h : moment.posted? fates id signal <;> simp [h]

theorem delivered_concat (timings : List Timing) (id : ThreadId) (signal : Nat)
    (history : List Moment) (moment : Moment) : delivered timings id signal (history ++ [moment]) =
      delivered timings id signal history ++ (moment.delivered? timings id signal).toList := by
  unfold delivered
  rw [List.filterMap_append]
  cases h : moment.delivered? timings id signal <;> simp [h]

/-- A moment that neither posts nor delivers here changes no list. -/
theorem Tallied.concat (h : Tallied fates timings id signal history v)
    (hposted : moment.posted? fates id signal = none)
    (hdelivered : moment.delivered? timings id signal = none) :
    Tallied fates timings id signal (history ++ [moment]) v := by
  unfold Tallied
  rw [posted_concat, delivered_concat, hposted, hdelivered]
  simpa [Tallied] using h

/-- What matters of the mailboxes is the records of the signal. -/
theorem Tallied.of_records (h : Tallied fates timings id signal history v) {v' : Mailboxes}
    (hrecords : v'.records id signal = v.records id signal) :
    Tallied fates timings id signal history v' := by
  rw [Tallied, hrecords]
  exact h

theorem records_initial (id : ThreadId) (signal : Nat) :
    Chronicle.initial.records id signal = [] := by
  cases hbox : Chronicle.initial id with
  | none =>
      rw [Mailboxes.records, hbox]
      rfl
  | some box =>
      rw [Mailboxes.records_of_some hbox, Chronicle.mailbox_initial hbox]
      exact SignalState.records_ofMask _ _ signal

/-- Before a run nothing has happened and nothing is recorded. -/
theorem tallied_initial (fates : List Fate) (timings : List Timing) (id : ThreadId) (signal : Nat) :
    Tallied fates timings id signal [] Chronicle.initial := by
  rw [Tallied, records_initial]
  rfl

/-! ## Posts and deliveries -/

theorem posted?_of_ok (fates : List Fate) (id : ThreadId) (signal : Nat) {post : Post} {fate : Fate}
    (h : post.outcome = .ok fate) : (Moment.posted post).posted? fates id signal =
      if post.id = id ∧ post.occurrence.signal = signal ∧ fate ∈ fates
      then some post.occurrence else none := by
  have hfate : post.fate? = some fate := by
    rw [Post.fate?, h]
    rfl
  unfold Moment.posted?
  simp [hfate]

/-- A post that meets none of the fates is not in their list. -/
theorem posted?_eq_none (id : ThreadId) (signal : Nat) {post : Post}
    (h : ∀ fate ∈ fates, post.outcome ≠ .ok fate) :
    (Moment.posted post).posted? fates id signal = none := by
  cases houtcome : post.outcome with
  | ok fate =>
      rw [posted?_of_ok fates id signal houtcome, if_neg]
      exact fun ⟨_, _, hfate⟩ ↦ h fate hfate houtcome
  | error error =>
      have hfate : post.fate? = none := by
        rw [Post.fate?, houtcome]
        rfl
      unfold Moment.posted?
      simp [hfate]

theorem delivered?_of_is (timings : List Timing) (id : ThreadId) (signal : Nat)
    {delivery : Delivery} {timing : Timing} (h : delivery.Is target timing o) :
    (Moment.delivered delivery).delivered? timings id signal =
      if target = id ∧ o.signal = signal ∧ timing ∈ timings then some o else none := by
  obtain ⟨rfl, rfl, rfl⟩ := h
  rfl

/-- A post that is not delivered at once is recorded behind the records if it is queued. -/
theorem records_kept (hqueued : .queued ∈ fates) (hcoalesced : .coalesced ∉ fates)
    (hq : box.signals.queue.Sound) (hbox : v target = some box)
    (houtcome : Post.outcome ⟨target, o, box.signals, busy⟩ ≠ .ok .delivered) (id : ThreadId)
    (signal : Nat) :
    Mailboxes.records
        (Function.update v target (some { box with signals := (box.signals.receive o).2 })) id
        signal =
      v.records id signal ++
        ((Moment.posted ⟨target, o, box.signals, busy⟩).posted? fates id signal).toList := by
  by_cases hfate : Post.outcome ⟨target, o, box.signals, busy⟩ = .ok .queued
  · have hreceive := SignalState.records_receive hq (Post.outcome_eq_ok_iff.1 hfate).2
    have hposted := posted?_of_ok fates id signal hfate
    by_cases htarget : id = target
    · subst htarget
      rw [Mailboxes.records_update_self, hreceive, Mailboxes.records_of_some hbox, hposted]
      by_cases hsignal : signal = o.signal
      · subst hsignal
        rw [if_pos rfl, if_pos ⟨rfl, rfl, hqueued⟩]
        rfl
      · rw [if_neg hsignal, if_neg fun h ↦ hsignal h.2.1.symm]
        exact (List.append_nil _).symm
    · rw [Mailboxes.records_update_of_ne htarget, hposted, if_neg fun h ↦ htarget h.1.symm]
      exact (List.append_nil _).symm
  · -- a merged or refused occurrence leaves no trace
    have hsame : (box.signals.receive o).2 = box.signals := by
      cases hvalid : Signal.isValid o.signal with
      | true =>
          exact SignalState.receive_of_ne_queued fun hreceive ↦
            hfate (Post.outcome_eq_ok_iff.2 ⟨hvalid, hreceive⟩)
      | false => exact SignalState.receive_of_invalid hvalid
    have hposted : (Moment.posted ⟨target, o, box.signals, busy⟩).posted? fates id signal =
        none := by
      refine posted?_eq_none id signal fun fate hmem ↦ ?_
      cases fate with
      | delivered => exact houtcome
      | queued => exact hfate
      | coalesced => exact absurd hmem hcoalesced
    rw [hsame, Mailboxes.update_signals_self hbox, hposted]
    exact (List.append_nil _).symm

/-- A record that is taken was the first one. -/
theorem records_taken (hdeferred : .deferred ∈ timings) (hbox : v target = some box) {first : Nat}
    {left : SignalState} (htaken : box.signals.Taken first o left) {delivery : Delivery}
    (hdelivery : delivery.Is target .deferred o) (id : ThreadId) (signal : Nat) :
    v.records id signal = ((Moment.delivered delivery).delivered? timings id signal).toList ++
      Mailboxes.records (Function.update v target (some { box with signals := left })) id
        signal := by
  obtain rfl := htaken.signal_eq
  rw [delivered?_of_is timings id signal hdelivery]
  by_cases htarget : id = target
  · subst htarget
    rw [Mailboxes.records_update_self, Mailboxes.records_of_some hbox]
    by_cases hsignal : signal = o.signal
    · subst hsignal
      rw [if_pos ⟨rfl, rfl, hdeferred⟩]
      exact htaken.records_eq
    · rw [if_neg fun h ↦ hsignal h.2.1.symm]
      exact (htaken.records_of_ne signal hsignal).symm
  · rw [Mailboxes.records_update_of_ne htarget, if_neg fun h ↦ htarget h.1.symm]
    rfl

/-- A post that is not delivered at once goes to the end of the records or nowhere. -/
theorem Tallied.kept (h : Tallied fates timings id signal history v) (hqueued : .queued ∈ fates)
    (hcoalesced : .coalesced ∉ fates) (hsound : v.Sound) (hbox : v target = some box)
    (houtcome : Post.outcome ⟨target, o, box.signals, busy⟩ ≠ .ok .delivered) :
    Tallied fates timings id signal (history ++ [.posted ⟨target, o, box.signals, busy⟩])
      (Function.update v target (some { box with signals := (box.signals.receive o).2 })) := by
  have hrecords := records_kept hqueued hcoalesced (hsound target box hbox).queue hbox houtcome
    id signal
  rw [Tallied, posted_concat, h, delivered_concat, hrecords]
  simp [Moment.delivered?]

/-- A record that is taken is the next one to be delivered. -/
theorem Tallied.taken (h : Tallied fates timings id signal history v)
    (hdeferred : .deferred ∈ timings) (hbox : v target = some box) {first : Nat}
    {left : SignalState} (htaken : box.signals.Taken first o left) {delivery : Delivery}
    (hdelivery : delivery.Is target .deferred o) :
    Tallied fates timings id signal (history ++ [.delivered delivery])
      (Function.update v target (some { box with signals := left })) := by
  have hrecords := records_taken hdeferred hbox htaken hdelivery id signal
  rw [Tallied, posted_concat, h, hrecords, delivered_concat]
  simp [Moment.posted?]

/-- A post that is delivered at once does not concern the records. -/
theorem Tallied.handed_unlisted (h : Tallied fates timings id signal history v)
    (hfates : .delivered ∉ fates) (htimings : .immediate ∉ timings) {post : Post}
    (houtcome : post.outcome = .ok .delivered) {delivery : Delivery}
    (hdelivery : delivery.Is target .immediate o) :
    Tallied fates timings id signal (history ++ [.posted post] ++ [.delivered delivery]) v := by
  have hposted := posted?_of_ok fates id signal houtcome
  have hdelivered := delivered?_of_is timings id signal hdelivery
  rw [if_neg fun ⟨_, _, hfate⟩ ↦ hfates hfate] at hposted
  rw [if_neg fun ⟨_, _, htiming⟩ ↦ htimings htiming] at hdelivered
  exact (h.concat hposted rfl).concat rfl hdelivered

/-- A post that is delivered at once comes next in line if nothing is recorded. -/
theorem Tallied.handed_listed (h : Tallied fates timings id signal history v)
    (hfates : .delivered ∈ fates) (htimings : .immediate ∈ timings)
    (houtcome : Post.outcome ⟨target, o, box.signals, busy⟩ = .ok .delivered)
    {delivery : Delivery} (hdelivery : delivery.Is target .immediate o)
    (hrecords : target = id → o.signal = signal → v.records id signal = []) :
    Tallied fates timings id signal
      (history ++ [.posted ⟨target, o, box.signals, busy⟩] ++ [.delivered delivery]) v := by
  have hposted := posted?_of_ok fates id signal houtcome
  have hdelivered := delivered?_of_is timings id signal hdelivery
  by_cases hhere : target = id ∧ o.signal = signal
  · have hempty := hrecords hhere.1 hhere.2
    rw [if_pos ⟨hhere.1, hhere.2, hfates⟩] at hposted
    rw [if_pos ⟨hhere.1, hhere.2, htimings⟩] at hdelivered
    rw [Tallied, hempty, List.append_nil] at h ⊢
    rw [posted_concat, posted_concat, delivered_concat, delivered_concat, hposted, hdelivered, h]
    simp [Moment.posted?, Moment.delivered?]
  · rw [if_neg fun ⟨htarget, hsignal, _⟩ ↦ hhere ⟨htarget, hsignal⟩] at hposted hdelivered
    exact (h.concat hposted rfl).concat rfl hdelivered

/-! ## Lists of several fates or times -/

/-- A selection that is one of two disjoint ones at each place selects what the two select. -/
theorem filterMap_perm {α β : Type} {f g k : α → Option β}
    (h : ∀ a, f a = g a ∧ k a = none ∨ f a = k a ∧ g a = none) (l : List α) :
    (l.filterMap f).Perm (l.filterMap g ++ l.filterMap k) := by
  induction l with
  | nil => exact .nil
  | cons a rest ih =>
      rcases h a with ⟨hf, hk⟩ | ⟨hf, hg⟩
      · rw [List.filterMap_cons_none hk]
        cases hg : g a with
        | none => rwa [List.filterMap_cons_none (hf.trans hg), List.filterMap_cons_none hg]
        | some b =>
            rw [List.filterMap_cons_some (hf.trans hg), List.filterMap_cons_some hg]
            exact ih.cons b
      · rw [List.filterMap_cons_none hg]
        cases hk : k a with
        | none => rwa [List.filterMap_cons_none (hf.trans hk), List.filterMap_cons_none hk]
        | some b =>
            rw [List.filterMap_cons_some (hf.trans hk), List.filterMap_cons_some hk]
            exact (ih.cons b).trans List.perm_middle.symm

/-- Posts that meet one more fate. -/
theorem posted_cons_perm {fate : Fate} (h : fate ∉ fates) (id : ThreadId) (signal : Nat)
    (history : List Moment) : (posted (fate :: fates) id signal history).Perm
      (posted [fate] id signal history ++ posted fates id signal history) := by
  refine filterMap_perm (fun moment ↦ ?_) history
  cases moment with
  | posted post =>
      cases houtcome : post.outcome with
      | ok met =>
          simp only [posted?_of_ok _ _ _ houtcome]
          by_cases hmet : met = fate
          · subst hmet
            simp [h]
          · simp [hmet]
      | error error =>
          have hnone (fates : List Fate) : (Moment.posted post).posted? fates id signal = none :=
            posted?_eq_none id signal fun fate _ ↦ by simp [houtcome]
          simp [hnone]
  | _ => exact .inl ⟨rfl, rfl⟩

/-- Deliveries at one more time. -/
theorem delivered_cons_perm {timing : Timing} (h : timing ∉ timings) (id : ThreadId) (signal : Nat)
    (history : List Moment) : (delivered (timing :: timings) id signal history).Perm
      (delivered [timing] id signal history ++ delivered timings id signal history) := by
  refine filterMap_perm (fun moment ↦ ?_) history
  cases moment with
  | delivered delivery =>
      have his : delivery.Is delivery.id delivery.timing delivery.occurrence := ⟨rfl, rfl, rfl⟩
      simp only [delivered?_of_is _ _ _ his]
      by_cases htiming : delivery.timing = timing
      · subst htiming
        simp [h]
      · simp [htiming]
  | _ => exact .inl ⟨rfl, rfl⟩

end Program

end SignalKernel
