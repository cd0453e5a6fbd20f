import Mathlib.Algebra.Group.Nat.Defs
import SignalKernel.Interrupt.Core

/-!
# Critical sections that end in any order

A critical section lasts as long as its token, and tokens may be dropped in any order. A token may
also lock a cell, which then is locked as long as the section lasts. What a core has to remember of
all this is a number only: how many tokens are live. Its interrupts are masked once for each, and it
took the lock that all cores share once for each.

`run` carries out steps on any kind of core that can enter and leave sections: on a `Core`, which
shares a lock with others, or on an interrupt depth alone. `Kept.run` and `Kept.composed` say in
which state a core is after any steps, and `Kept.run_withoutLock` that the two kinds of core cannot
be told apart, because a core that is the only one to take the lock never waits for it.
-/

namespace SignalKernel

/-- Emptying a place leaves one less that is taken. -/
theorem countP_set_none {α : Type} {places : List (Option α)} {index : Nat} {entry : α}
    (h : places[index]? = some (some entry)) :
    (places.set index none).countP Option.isSome + 1 = places.countP Option.isSome := by
  obtain ⟨hindex, hentry⟩ := List.getElem?_eq_some_iff.1 h
  have hpos : 0 < places.countP Option.isSome :=
    List.countP_pos_iff.2 ⟨_, List.getElem_mem hindex, by rw [hentry]; rfl⟩
  rw [List.countP_set hindex, hentry]
  simp only [Option.isSome_some, Option.isSome_none, if_true, Bool.false_eq_true, if_false]
  omega

namespace CoreLock

/-- The lock that a core took a number of times. -/
def heldBy (core : UInt64) (levels : Nat) : CoreLock :=
  if levels = 0 then {} else ⟨some core, .ofNat levels⟩

theorem acquire?_heldBy (core : UInt64) (levels : Nat) :
    (heldBy core levels).acquire? core = some (heldBy core (levels + 1)) := by
  unfold heldBy
  split
  case isTrue hfree =>
    rw [hfree]
    rfl
  case isFalse =>
    rw [acquire?, if_neg (Nat.succ_ne_zero levels), UInt32.ofNat_add]
    simp

section Few

variable {levels : Nat} (h : levels < 2 ^ 32)
include h

/-- The count of levels does not overflow. -/
theorem ofNat_eq_iff {other : Nat} (hother : other < 2 ^ 32) :
    UInt32.ofNat levels = UInt32.ofNat other ↔ levels = other := by
  rw [← UInt32.toNat_inj, UInt32.toNat_ofNat_of_lt' h, UInt32.toNat_ofNat_of_lt' hother]

theorem release_heldBy (core : UInt64) :
    (heldBy core (levels + 1)).release = heldBy core levels := by
  by_cases hfree : levels = 0
  · subst hfree
    simp [heldBy, release]
  · -- the owner stays as long as the count does not come back to 0
    have hmore : UInt32.ofNat levels + 1 ≠ 1 := by
      intro hone
      have hzero := congrArg (· - 1) hone
      simp only [UInt32.add_sub_cancel] at hzero
      exact hfree ((ofNat_eq_iff h (by decide)).1 hzero)
    rw [heldBy, if_neg (Nat.succ_ne_zero levels), heldBy, if_neg hfree, UInt32.ofNat_add]
    show CoreLock.mk (if UInt32.ofNat levels + 1 = 1 then none else some core)
      (UInt32.ofNat levels + 1 - 1) = _
    rw [if_neg hmore, UInt32.add_sub_cancel]

theorem mayEnter_heldBy {core : Core} (hlock : core.lock = heldBy core.number levels) :
    core.MayEnter := by
  unfold heldBy at hlock
  split at hlock
  case isTrue => exact .inl hlock
  case isFalse hheld =>
    refine .inr ⟨congrArg owner hlock, ?_⟩
    rw [congrArg depth hlock]
    intro hzero
    exact hheld ((ofNat_eq_iff h (by decide)).1 hzero)

theorem toNat_depth_heldBy (core : UInt64) : (heldBy core levels).depth.toNat = levels := by
  unfold heldBy
  split
  case isTrue hfree => exact hfree.symm
  case isFalse => exact UInt32.toNat_ofNat_of_lt' h

end Few

theorem owner_heldBy (core : UInt64) (levels : Nat) :
    (heldBy core levels).owner = if levels = 0 then none else some core := by
  unfold heldBy
  split <;> rfl

end CoreLock

namespace Sections

/-! ## Steps -/

/-- What a core does with critical sections. -/
class SectionControl (σ : Type) where
  /-- Enter a section. There is no result if the core has to wait for another one. -/
  enter? : σ → Option (CriticalSection × σ)
  leave : CriticalSection → σ → σ
  interrupts : σ → InterruptDepth

/-- A core that takes the lock that all cores share. -/
instance : SectionControl Core where
  enter? core := do
    let (flags, interrupts) := InterruptControl.save core.interrupts
    let lock ← core.lock.acquire? core.number
    some (⟨flags⟩, { core with interrupts, lock })
  leave entered core := core.leave entered
  interrupts core := core.interrupts

/-- A core without that lock, which only masks its interrupts. -/
instance : SectionControl InterruptDepth where
  enter? depth :=
    let (flags, masked) := InterruptControl.save depth
    some (⟨flags⟩, masked)
  leave entered depth := InterruptControl.restore entered.flags depth
  interrupts depth := depth

/-- Where the core need not wait, it enters. -/
theorem enter?_of_mayEnter {core : Core} (h : core.MayEnter) :
    SectionControl.enter? core = some core.enter := by
  have hlock : ∃ lock, core.lock.acquire? core.number = some lock := by
    rcases h with hfree | ⟨howner, -⟩
    · exact ⟨_, by rw [hfree]; rfl⟩
    · exact ⟨_, by rw [CoreLock.acquire?, howner]; exact if_pos rfl⟩
  obtain ⟨lock, hlock⟩ := hlock
  simp only [SectionControl.enter?, Core.enter, hlock, Option.bind_eq_bind, Option.bind_some,
    Option.getD_some]

/-- A critical section in progress, and the cell that is locked with it. -/
structure Token where
  entered : CriticalSection
  cell : Option Nat

/-- The token locks a cell. -/
def Token.locks (token : Token) (cell : Nat) : Bool :=
  token.cell == some cell

/-- A core with the tokens that were taken on it. -/
structure Holder (σ : Type) where
  core : σ
  /-- The tokens in the order of taking. A token that was dropped leaves its place empty. -/
  tokens : List (Option Token) := []
  isLocked : Nat → Bool := fun _ ↦ false

/-- What may be done with tokens. -/
inductive Step where
  /-- Enter a critical section, and lock a cell in it if one is given. -/
  | take (cell : Option Nat)
  /-- Drop the token at a place. -/
  | drop (index : Nat)

/-- What is seen of a step. -/
inductive Sight where
  /-- A token was taken: whether interrupts were enabled before, and the depth now. -/
  | taken (wereEnabled : Bool) (depth : UInt64)
  /-- A token was dropped: the depth now. -/
  | dropped (depth : UInt64)
  /-- There was no token to drop: the depth as before. -/
  | missing (depth : UInt64)
deriving DecidableEq

namespace Holder

variable {σ : Type}

/-- The number of tokens that were not dropped. -/
def live (holder : Holder σ) : Nat :=
  holder.tokens.countP Option.isSome

/-- A token was taken, and the core is as given. -/
def taken (holder : Holder σ) (core : σ) (token : Token) : Holder σ where
  core
  tokens := holder.tokens ++ [some token]
  isLocked cell := holder.isLocked cell || token.locks cell

/-- The token at a place was dropped, and the core is as given. -/
def dropped (holder : Holder σ) (core : σ) (index : Nat) (token : Token) : Holder σ where
  core
  tokens := holder.tokens.set index none
  isLocked cell := holder.isLocked cell && !token.locks cell

/-- Take a step. There is no result if the step waits for ever: for another core, or for a cell that
is locked, since the token that locks it is held by the core that waits. -/
def step [SectionControl σ] (holder : Holder σ) : Step → Option (Sight × Holder σ)
  | .take cell => do
      let (entered, core) ← SectionControl.enter? holder.core
      if cell.any holder.isLocked then none
      else
        some (.taken entered.flags.wereEnabled (SectionControl.interrupts core).depth,
          holder.taken core ⟨entered, cell⟩)
  | .drop index =>
      match holder.tokens[index]? with
      | some (some token) =>
          let core := SectionControl.leave token.entered holder.core
          some (.dropped (SectionControl.interrupts core).depth, holder.dropped core index token)
      | _ => some (.missing (SectionControl.interrupts holder.core).depth, holder)

end Holder

/-- Take steps in order, and tell what was seen. -/
def run {σ : Type} [SectionControl σ] : List Step → Holder σ → Option (List Sight × Holder σ)
  | [], holder => some ([], holder)
  | step :: rest, holder => do
      let (sight, after) ← holder.step step
      let (sights, last) ← run rest after
      some (sight :: sights, last)

section Runs

variable {σ : Type} [SectionControl σ] {holder reached : Holder σ} {sights : List Sight}

/-- A run that comes to an end took its first step, and the rest of it came to an end. -/
theorem run_cons {first : Step} {rest : List Step}
    (hrun : run (first :: rest) holder = some (sights, reached)) :
    ∃ sight after, holder.step first = some (sight, after) ∧
      ∃ seen, run rest after = some (seen, reached) := by
  simp only [run, Option.bind_eq_bind, Option.bind_eq_some_iff] at hrun
  obtain ⟨⟨sight, after⟩, hfirst, ⟨seen, last⟩, hrest, hlast⟩ := hrun
  cases hlast
  exact ⟨sight, after, hfirst, seen, hrest⟩

/-- A step takes one token at most. -/
theorem length_tokens_step {step : Step} {sight : Sight} {after : Holder σ}
    (hstep : holder.step step = some (sight, after)) :
    after.tokens.length ≤ holder.tokens.length + 1 := by
  cases step with
  | take cell =>
      simp only [Holder.step, Option.bind_eq_bind, Option.bind_eq_some_iff] at hstep
      obtain ⟨⟨entered, core⟩, -, htaken⟩ := hstep
      split at htaken
      case isTrue => cases htaken
      case isFalse =>
        cases htaken
        simp [Holder.taken]
  | drop index =>
      rw [Holder.step] at hstep
      split at hstep
      case h_1 =>
        cases hstep
        simp [Holder.dropped]
      case h_2 =>
        cases hstep
        exact Nat.le_succ _

theorem length_tokens_run {steps : List Step} (hrun : run steps holder = some (sights, reached)) :
    reached.tokens.length ≤ holder.tokens.length + steps.length := by
  induction steps generalizing holder sights with
  | nil =>
      cases hrun
      exact Nat.le_refl _
  | cons first rest ih =>
      obtain ⟨sight, after, hfirst, seen, hrest⟩ := run_cons hrun
      have hafter : after.tokens.length ≤ holder.tokens.length + 1 := length_tokens_step hfirst
      have hreached : reached.tokens.length ≤ after.tokens.length + rest.length := ih hrest
      rw [List.length_cons]
      omega

end Runs

/-! ## What the core remembers -/

/-- A core that nobody shares a lock with, at a depth. -/
def startingAt (start : UInt64) : Core where
  interrupts := ⟨start⟩

/-- The core while a number of tokens are live. -/
def holding (start : UInt64) (live : Nat) : Core where
  interrupts := ⟨start + .ofNat live⟩
  lock := .heldBy 0 live

theorem holding_zero (start : UInt64) : holding start 0 = startingAt start := by
  simp [holding, startingAt, CoreLock.heldBy]

theorem add_ofNat_succ (start : UInt64) (live : Nat) :
    start + .ofNat (live + 1) = start + .ofNat live + 1 := by
  rw [UInt64.ofNat_add, ← UInt64.add_assoc]
  rfl

/-- Entering a section is to hold one more token. -/
theorem enter?_holding (start : UInt64) (live : Nat) :
    SectionControl.enter? (holding start live) =
      some (⟨⟨start + .ofNat live == 0⟩⟩, holding start (live + 1)) := by
  simp only [SectionControl.enter?, holding, InterruptControl.save, CoreLock.acquire?_heldBy,
    Option.bind_eq_bind, Option.bind_some, add_ofNat_succ]

theorem enter_holding (start : UInt64) {live : Nat} (h : live < 2 ^ 32) :
    (holding start live).enter =
      (⟨⟨start + .ofNat live == 0⟩⟩, holding start (live + 1)) := by
  have hmay : (holding start live).MayEnter := CoreLock.mayEnter_heldBy h rfl
  exact Option.some.inj ((enter?_of_mayEnter hmay).symm.trans (enter?_holding start live))

/-- Leaving one is to hold one token less, whichever it is. -/
theorem leave_holding (start : UInt64) {live : Nat} (h : live < 2 ^ 32)
    (entered : CriticalSection) :
    SectionControl.leave entered (holding start (live + 1)) = holding start live := by
  simp only [SectionControl.leave, Core.leave, holding, InterruptControl.restore,
    CoreLock.release_heldBy h, add_ofNat_succ, UInt64.add_sub_cancel]

/-- The depth is 0 in spite of live tokens only where it has come round. -/
theorem depth_eq_zero_iff (start : UInt64) {live : Nat} (hlive : live ≠ 0) (hfew : live < 2 ^ 32) :
    start + .ofNat live = 0 ↔ start.toNat + live = 2 ^ 64 := by
  have hstart : start.toNat < 2 ^ 64 := start.toNat_lt
  have hword : live < 2 ^ 64 := Nat.lt_trans hfew (by decide)
  rw [← UInt64.toNat_inj, UInt64.toNat_add, UInt64.toNat_ofNat_of_lt' hword, UInt64.toNat_zero]
  omega

/-- How many live tokens lock a cell. -/
def Holder.locking {σ : Type} (holder : Holder σ) (cell : Nat) : Nat :=
  holder.tokens.countP (·.any (·.locks cell))

/-- The holder's core is told by the number of live tokens, and a locked cell is locked by one of
them. -/
structure Kept (start : UInt64) (holder : Holder Core) : Prop where
  core : holder.core = holding start holder.live
  locked : ∀ cell, holder.locking cell = (holder.isLocked cell).toNat

namespace Kept

variable {start : UInt64} {holder : Holder Core}

theorem fresh (start : UInt64) : Kept start { core := startingAt start } where
  core := (holding_zero start).symm
  locked _ := rfl

theorem taken (h : Kept start holder) {token : Token}
    (hfree : token.cell.any holder.isLocked = false) :
    Kept start (holder.taken (holding start (holder.live + 1)) token) := by
  constructor
  case core =>
    have hlive : (holder.taken (holding start (holder.live + 1)) token).live = holder.live + 1 := by
      simp [Holder.live, Holder.taken]
    rw [hlive]
    rfl
  case locked =>
    intro cell
    show (holder.tokens ++ [some token]).countP _ = (holder.isLocked cell || token.locks cell).toNat
    rw [List.countP_append, List.countP_singleton, Option.any_some]
    have hbefore : holder.tokens.countP (·.any (·.locks cell)) = (holder.isLocked cell).toNat :=
      h.locked cell
    rw [hbefore]
    cases hlocks : token.locks cell with
    | false => simp
    | true =>
        rw [Token.locks, beq_iff_eq] at hlocks
        rw [hlocks, Option.any_some] at hfree
        rw [hfree]
        rfl

theorem dropped (h : Kept start holder) {index : Nat} {token : Token}
    (htoken : holder.tokens[index]? = some (some token)) :
    Kept start (holder.dropped (holding start (holder.live - 1)) index token) := by
  constructor
  case core =>
    have hlive : (holder.tokens.set index none).countP Option.isSome + 1 = holder.live :=
      countP_set_none htoken
    rw [← hlive]
    rfl
  case locked =>
    intro cell
    obtain ⟨hindex, hentry⟩ := List.getElem?_eq_some_iff.1 htoken
    show (holder.tokens.set index none).countP _ = (holder.isLocked cell && !token.locks cell).toNat
    have hbefore : holder.tokens.countP (·.any (·.locks cell)) = (holder.isLocked cell).toNat :=
      h.locked cell
    rw [List.countP_set hindex, hentry, hbefore]
    cases hlocks : token.locks cell with
    | false => simp [hlocks]
    | true => cases holder.isLocked cell <;> simp [hlocks]

/-- A token is taken unless the core would wait for a cell that it locked itself. It never waits for
the lock that all cores share. -/
theorem step_take (h : Kept start holder) (cell : Option Nat) :
    holder.step (.take cell) =
      if cell.any holder.isLocked then none
      else
        let wereEnabled := start + .ofNat holder.live == 0
        some (.taken wereEnabled (start + .ofNat (holder.live + 1)),
          holder.taken (holding start (holder.live + 1)) ⟨⟨⟨wereEnabled⟩⟩, cell⟩) := by
  rw [Holder.step, h.core, enter?_holding]
  rfl

theorem step_drop (h : Kept start holder) (hfew : holder.live < 2 ^ 32) {index : Nat}
    {token : Token} (htoken : holder.tokens[index]? = some (some token)) :
    holder.step (.drop index) = some
      (.dropped (start + .ofNat (holder.live - 1)),
        holder.dropped (holding start (holder.live - 1)) index token) := by
  have hlive : (holder.tokens.set index none).countP Option.isSome + 1 = holder.live :=
    countP_set_none htoken
  have hleft :
      SectionControl.leave token.entered holder.core = holding start (holder.live - 1) := by
    rw [h.core, ← hlive, Nat.add_sub_cancel]
    exact leave_holding start (by omega) token.entered
  simp only [Holder.step, htoken, hleft]
  rfl

theorem step (h : Kept start holder) (hfew : holder.live < 2 ^ 32) {step : Step} {sight : Sight}
    {after : Holder Core} (hstep : holder.step step = some (sight, after)) : Kept start after := by
  cases step with
  | take cell =>
      rw [h.step_take] at hstep
      split at hstep
      case isTrue => cases hstep
      case isFalse hfree =>
        cases hstep
        exact h.taken (Bool.eq_false_iff.2 hfree)
  | drop index =>
      rcases htoken : holder.tokens[index]? with _ | _ | token
      · simp only [Holder.step, htoken] at hstep
        cases hstep
        exact h
      · simp only [Holder.step, htoken] at hstep
        cases hstep
        exact h
      · rw [h.step_drop hfew htoken] at hstep
        cases hstep
        exact h.dropped htoken

end Kept

/-! ## Runs -/

/-- Fewer than 2 ^ 32 tokens are live at any time. -/
def Few (steps : List Step) (holder : Holder Core) : Prop :=
  ∀ earlier, earlier <+: steps → ∀ sights reached,
    run earlier holder = some (sights, reached) → reached.live < 2 ^ 32

namespace Few

variable {steps : List Step} {holder : Holder Core}

theorem now (h : Few steps holder) : holder.live < 2 ^ 32 :=
  h [] List.nil_prefix [] holder rfl

theorem next {first : Step} (h : Few (first :: steps) holder) {sight : Sight} {after : Holder Core}
    (hstep : holder.step first = some (sight, after)) : Few steps after := by
  intro earlier hearlier sights reached hrun
  refine h (first :: earlier) ?_ (sight :: sights) reached ?_
  · exact (List.prefix_cons_inj first).2 hearlier
  · simp only [run, hstep, hrun, Option.bind_eq_bind, Option.bind_some]

/-- Where there are few steps, there are few tokens. -/
theorem of_length {start : UInt64} (h : steps.length < 2 ^ 32) :
    Few steps { core := startingAt start } := by
  intro earlier hearlier sights reached hrun
  have hlength : reached.tokens.length ≤ 0 + earlier.length := length_tokens_run hrun
  have hlive : reached.live ≤ reached.tokens.length := List.countP_le_length
  have hsteps : earlier.length ≤ steps.length := hearlier.length_le
  omega

end Few

theorem Kept.run {start : UInt64} {steps : List Step} {holder reached : Holder Core}
    {sights : List Sight} (h : Kept start holder) (hfew : Few steps holder)
    (hrun : run steps holder = some (sights, reached)) : Kept start reached := by
  induction steps generalizing holder sights with
  | nil =>
      cases hrun
      exact h
  | cons first rest ih =>
      obtain ⟨sight, after, hfirst, seen, hrest⟩ := run_cons hrun
      exact ih (h.step hfew.now hfirst) (hfew.next hfirst) hrest

/-- The same tokens on a core without the shared lock. -/
def Holder.withoutLock (holder : Holder Core) : Holder InterruptDepth where
  core := holder.core.interrupts
  tokens := holder.tokens
  isLocked := holder.isLocked

/-- A core that does not wait for the shared lock takes the step that it would take without it. -/
theorem Kept.step_withoutLock {start : UInt64} {holder : Holder Core} (h : Kept start holder)
    (step : Step) :
    holder.withoutLock.step step =
      (holder.step step).map fun (sight, after) ↦ (sight, after.withoutLock) := by
  cases step with
  | take cell =>
      have hcore : holder.withoutLock.core = ⟨start + .ofNat holder.live⟩ :=
        congrArg Core.interrupts h.core
      rw [h.step_take, Holder.step, hcore, add_ofNat_succ]
      -- both wait where the cell is locked
      show (if cell.any holder.isLocked then none else _) = _
      split
      case isTrue => rfl
      case isFalse =>
        simp only [Option.map_some, Holder.taken, holding, add_ofNat_succ]
        rfl
  | drop index =>
      simp only [Holder.step, Holder.withoutLock]
      rcases holder.tokens[index]? with _ | _ | token <;> rfl

theorem Kept.run_withoutLock {start : UInt64} {steps : List Step} {holder : Holder Core}
    (h : Kept start holder) (hfew : Few steps holder) :
    Sections.run steps holder.withoutLock =
      (Sections.run steps holder).map fun (sights, reached) ↦ (sights, reached.withoutLock) := by
  induction steps generalizing holder with
  | nil => rfl
  | cons first rest ih =>
      simp only [Sections.run, h.step_withoutLock]
      cases hfirst : holder.step first with
      | none => rfl
      | some seen =>
          obtain ⟨sight, after⟩ := seen
          simp only [Option.map_some, Option.bind_eq_bind, Option.bind_some,
            ih (h.step hfew.now hfirst) (hfew.next hfirst)]
          cases Sections.run rest after <;> rfl

/-! ## The state of the core -/

/-- What the live tokens, dropped in whatever order, make of a core that started at a depth. -/
structure Composed (start : UInt64) (holder : Holder Core) : Prop where
  depth : holder.core.interrupts.depth = start + .ofNat holder.live
  /-- Interrupts stay masked until the last token is gone, unless the depth came round to 0. -/
  masked : holder.live ≠ 0 → start.toNat + holder.live ≠ 2 ^ 64 →
    InterruptControl.isEnabled holder.core.interrupts = false
  restored : holder.live = 0 → holder.core = startingAt start
  owner : holder.core.lock.owner = if holder.live = 0 then none else some holder.core.number
  levels : holder.core.lock.depth.toNat = holder.live
  /-- Entering does not wait for another core. -/
  enters : SectionControl.enter? holder.core = some holder.core.enter
  /-- A cell is locked by one live token, or free. -/
  cells : ∀ cell, holder.locking cell = (holder.isLocked cell).toNat
  /-- The next token finds that interrupts were enabled if the depth is 0. It waits only for a cell
  that is locked. -/
  taking : ∀ cell, holder.step (.take cell) =
    if cell.any holder.isLocked then none
    else
      let wereEnabled := holder.core.interrupts.depth == 0
      some (.taken wereEnabled (holder.core.interrupts.depth + 1),
        holder.taken holder.core.enter.2 ⟨⟨⟨wereEnabled⟩⟩, cell⟩)

theorem Kept.mayEnter {start : UInt64} {holder : Holder Core} (h : Kept start holder)
    (hfew : holder.live < 2 ^ 32) : holder.core.MayEnter := by
  rw [h.core]
  exact CoreLock.mayEnter_heldBy hfew rfl

theorem Kept.composed {start : UInt64} {holder : Holder Core} (h : Kept start holder)
    (hfew : holder.live < 2 ^ 32) : Composed start holder where
  depth := congrArg (·.interrupts.depth) h.core
  masked hlive hround := by
    rw [h.core]
    exact beq_eq_false_iff_ne.2 fun hzero ↦ hround ((depth_eq_zero_iff start hlive hfew).1 hzero)
  restored hnone := by rw [h.core, hnone, holding_zero]
  owner := by
    rw [h.core]
    exact CoreLock.owner_heldBy 0 holder.live
  levels := by
    rw [h.core]
    exact CoreLock.toNat_depth_heldBy hfew 0
  enters := by rw [h.core, enter?_holding, enter_holding start hfew]
  cells := h.locked
  taking cell := by
    have hdepth : holder.core.interrupts.depth = start + .ofNat holder.live :=
      congrArg (·.interrupts.depth) h.core
    rw [h.step_take, hdepth, h.core, enter_holding start hfew, add_ofNat_succ]

end Sections

end SignalKernel
