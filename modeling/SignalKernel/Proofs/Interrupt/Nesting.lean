import Mathlib.Algebra.Group.Nat.Defs
import SignalKernel.Interrupt.Flag
import SignalKernel.Interrupt.Depth

/-!
# A depth and a flag mask interrupts alike

One core counts how deep interrupts are masked and gives back a level whatever was saved; another
knows a single flag, and restoring enables interrupts only if they were enabled. Programs whose
sections nest cannot tell the two apart: `nesting_alike`. Interrupts may be disabled anywhere, and
enabled outside of all sections.

The two states stay in step because a section leaves its state as it found it. Within a section
interrupts are masked, and disabling them once more changes neither the depth nor the flag.
-/

namespace SignalKernel.Nesting

/-- What a program sees of the interrupts. -/
inductive Sight where
  /-- Saving told whether interrupts were enabled. -/
  | saved (wereEnabled : Bool)
  /-- Whether interrupts are enabled after a step. -/
  | enabled (isEnabled : Bool)
  /-- A section is over: whether interrupts were enabled before it, and whether they are now. -/
  | ended (before after : Bool)
deriving DecidableEq

/-- What may be done within sections. -/
inductive Inner where
  /-- Disable interrupts. -/
  | disable
  /-- Save, do something, and restore what was saved. -/
  | pair (body : List Inner)
  /-- Do something without interrupts. -/
  | block (body : List Inner)

/-- What may be done outside of all sections. -/
inductive Outer where
  /-- Enable interrupts. -/
  | enable
  | inner (step : Inner)

section Running

variable {σ : Type} [InterruptControl σ]

/-- Whether interrupts are enabled. -/
def enabled : StateM σ Bool := do
  pure (InterruptControl.isEnabled (← get))

/-- Save, do something, and restore what was saved. -/
def paired (body : StateM σ (List Sight)) : StateM σ (List Sight) := do
  let before ← enabled
  let flags ← modifyGet InterruptControl.save
  let inside ← enabled
  let sights ← body
  modify (InterruptControl.restore flags)
  let after ← enabled
  pure (.saved flags.wereEnabled :: .enabled inside :: sights ++
    [.enabled after, .ended before after])

/-- The whole state as a component of itself. -/
def whole : Component σ σ where
  get state := state
  set state _ := state

/-- Do something without interrupts. -/
def masked (body : StateM σ (List Sight)) : StateM σ (List Sight) := do
  let before ← enabled
  let sights ← withoutInterrupts whole do
    let inside ← enabled
    let sights ← body
    pure (.enabled inside :: sights)
  let after ← enabled
  pure (sights ++ [.enabled after, .ended before after])

mutual

/-- Do a step and tell what was seen. -/
def Inner.run : Inner → StateM σ (List Sight)
  | .disable => do
      modify InterruptControl.disable
      pure [.enabled (← enabled)]
  | .pair body => paired (Inner.runAll body)
  | .block body => masked (Inner.runAll body)

/-- Do steps in order. -/
def Inner.runAll : List Inner → StateM σ (List Sight)
  | [] => pure []
  | step :: rest => do
      let sights ← step.run
      let later ← Inner.runAll rest
      pure (sights ++ later)

end

/-- Do a step outside of all sections. -/
def Outer.run : Outer → StateM σ (List Sight)
  | .enable => do
      modify InterruptControl.enable
      pure [.enabled (← enabled)]
  | .inner step => step.run

/-- Do steps in order, outside of all sections. -/
def Outer.runAll : List Outer → StateM σ (List Sight)
  | [] => pure []
  | step :: rest => do
      let sights ← step.run
      let later ← Outer.runAll rest
      pure (sights ++ later)

/-- What a program sees on a core that starts in a state. -/
def sights (state : σ) (steps : List Outer) : List Sight :=
  (Outer.runAll steps state).1

/-- Restoring right after saving puts the state back. -/
def Restores (state : σ) : Prop :=
  InterruptControl.restore (InterruptControl.save state).1 (InterruptControl.save state).2 = state

/-- What is seen of a section in a state that saving and restoring leave as it is. -/
def around (state : σ) (inside : List Sight) : List Sight :=
  .enabled (InterruptControl.isEnabled (InterruptControl.save state).2) :: inside ++
    [.enabled (InterruptControl.isEnabled state),
      .ended (InterruptControl.isEnabled state) (InterruptControl.isEnabled state)]

variable {state : σ} {body : StateM σ (List Sight)} {inside : List Sight}

theorem run_paired (hstate : Restores state)
    (hbody : body (InterruptControl.save state).2 = (inside, (InterruptControl.save state).2)) :
    paired body state =
      (.saved (InterruptControl.save state).1.wereEnabled :: around state inside, state) := by
  show (.saved _ :: .enabled _ :: (body (InterruptControl.save state).2).1 ++
      [.enabled (InterruptControl.isEnabled (InterruptControl.restore
          (InterruptControl.save state).1 (body (InterruptControl.save state).2).2)),
        .ended _ (InterruptControl.isEnabled (InterruptControl.restore
          (InterruptControl.save state).1 (body (InterruptControl.save state).2).2))],
    InterruptControl.restore (InterruptControl.save state).1
      (body (InterruptControl.save state).2).2) = _
  rw [hbody, hstate]
  rfl

theorem run_masked (hstate : Restores state)
    (hbody : body (InterruptControl.save state).2 = (inside, (InterruptControl.save state).2)) :
    masked body state = (around state inside, state) := by
  show (.enabled _ :: (body (InterruptControl.save state).2).1 ++
      [.enabled (InterruptControl.isEnabled (InterruptControl.restore
          (InterruptControl.save state).1 (body (InterruptControl.save state).2).2)),
        .ended _ (InterruptControl.isEnabled (InterruptControl.restore
          (InterruptControl.save state).1 (body (InterruptControl.save state).2).2))],
    InterruptControl.restore (InterruptControl.save state).1
      (body (InterruptControl.save state).2).2) = _
  rw [hbody, hstate]
  rfl

end Running

mutual

/-- How deep the sections of a step nest. -/
def Inner.levels : Inner → Nat
  | .disable => 0
  | .pair body | .block body => Inner.levelsAll body + 1

/-- How deep the sections of some steps nest. -/
def Inner.levelsAll : List Inner → Nat
  | [] => 0
  | step :: rest => max step.levels (Inner.levelsAll rest)

end

/-- The level after a step: disabled interrupts are one level deep, and sections end where they
began. -/
def Outer.leaves (level : Nat) : Outer → Nat
  | .enable => 0
  | .inner .disable => 1
  | .inner _ => level

/-- How deep interrupts are masked at most. Interrupts that are disabled outside of all sections are
masked one level deep already, so that sections are one level deeper then. -/
def Outer.levelsAll (level : Nat) : List Outer → Nat
  | [] => level
  | .enable :: rest => levelsAll 0 rest
  | .inner step :: rest =>
      max (level + step.levels) (levelsAll (Outer.leaves level (.inner step)) rest)

theorem restores_depth (depth : InterruptDepth) : Restores depth :=
  InterruptDepth.restore_save _ depth

theorem restores_flag (flag : InterruptFlag) : Restores flag := by
  obtain ⟨_ | _⟩ := flag <;> rfl

/-- All sections among the sights ended as they began. -/
def Undisturbed (sights : List Sight) : Prop :=
  ∀ before after, .ended before after ∈ sights → before = after

/-- The cores get on alike: they show the same, sections end as they began, and afterwards the
cores are in the states `depth'` and `flag'`. -/
def Alike (depth depth' : InterruptDepth) (flag flag' : InterruptFlag)
    (m : StateM InterruptDepth (List Sight)) (m' : StateM InterruptFlag (List Sight)) : Prop :=
  ∃ sights, Undisturbed sights ∧ m depth = (sights, depth') ∧ m' flag = (sights, flag')

/-- The states of the two cores fit: they agree about interrupts. -/
def Fits (depth : InterruptDepth) (flag : InterruptFlag) : Prop :=
  flag.enabled = (depth.depth == 0)

section Sections

variable {depth : InterruptDepth} {flag : InterruptFlag} {inside : List Sight}

theorem toNat_deeper (hroom : depth.depth.toNat + 1 < 2 ^ 64) :
    (depth.depth + 1).toNat = depth.depth.toNat + 1 := by
  rw [UInt64.toNat_add]
  exact Nat.mod_eq_of_lt hroom

/-- One level deeper the depth is not 0 unless the word wraps. -/
theorem masked_deeper (hroom : depth.depth.toNat + 1 < 2 ^ 64) : depth.depth + 1 ≠ 0 := by
  intro hzero
  have hdeeper := toNat_deeper hroom
  rw [hzero] at hdeeper
  exact absurd hdeeper (Nat.succ_ne_zero _).symm

theorem around_alike (hfits : Fits depth flag) (hroom : depth.depth.toNat + 1 < 2 ^ 64) :
    around depth inside = around flag inside := by
  show .enabled (depth.depth + 1 == 0) :: inside ++
      [.enabled (depth.depth == 0), .ended (depth.depth == 0) (depth.depth == 0)] =
    .enabled false :: inside ++ [.enabled flag.enabled, .ended flag.enabled flag.enabled]
  rw [hfits, beq_eq_false_iff_ne.2 (masked_deeper hroom)]

theorem undisturbed_around {σ : Type} [InterruptControl σ] (state : σ) (h : Undisturbed inside) :
    Undisturbed (around state inside) := by
  intro before after hended
  simp only [around, List.cons_append, List.mem_cons, List.mem_append, reduceCtorEq, false_or,
    List.not_mem_nil, or_false, Sight.ended.injEq] at hended
  rcases hended with hinside | ⟨rfl, rfl⟩
  · exact h before after hinside
  · rfl

variable {body : StateM InterruptDepth (List Sight)} {body' : StateM InterruptFlag (List Sight)}

theorem Alike.paired (hfits : Fits depth flag) (hroom : depth.depth.toNat + 1 < 2 ^ 64)
    (h : Alike ⟨depth.depth + 1⟩ ⟨depth.depth + 1⟩ ⟨false⟩ ⟨false⟩ body body') :
    Alike depth depth flag flag (Nesting.paired body) (Nesting.paired body') := by
  obtain ⟨inside, hundisturbed, hbody, hbody'⟩ := h
  refine ⟨.saved (depth.depth == 0) :: around depth inside, ?_, ?_, ?_⟩
  · intro before after hended
    exact undisturbed_around depth hundisturbed before after (by simpa using hended)
  · exact run_paired (restores_depth depth) hbody
  · rw [around_alike hfits hroom, ← hfits]
    exact run_paired (restores_flag flag) hbody'

theorem Alike.masked (hfits : Fits depth flag) (hroom : depth.depth.toNat + 1 < 2 ^ 64)
    (h : Alike ⟨depth.depth + 1⟩ ⟨depth.depth + 1⟩ ⟨false⟩ ⟨false⟩ body body') :
    Alike depth depth flag flag (Nesting.masked body) (Nesting.masked body') := by
  obtain ⟨inside, hundisturbed, hbody, hbody'⟩ := h
  refine ⟨around depth inside, undisturbed_around depth hundisturbed, ?_, ?_⟩
  · exact run_masked (restores_depth depth) hbody
  · rw [around_alike hfits hroom]
    exact run_masked (restores_flag flag) hbody'

end Sections

theorem Alike.nil (depth : InterruptDepth) (flag : InterruptFlag) :
    Alike depth depth flag flag (pure []) (pure []) :=
  ⟨[], fun _ _ h ↦ absurd h List.not_mem_nil, rfl, rfl⟩

/-- The sights of a step, and those of the steps after it. -/
theorem Alike.append {d₀ d₁ d₂ : InterruptDepth} {f₀ f₁ f₂ : InterruptFlag}
    {m n : StateM InterruptDepth (List Sight)} {m' n' : StateM InterruptFlag (List Sight)}
    (h : Alike d₀ d₁ f₀ f₁ m m') (hlater : Alike d₁ d₂ f₁ f₂ n n') :
    Alike d₀ d₂ f₀ f₂ (do let sights ← m; let later ← n; pure (sights ++ later))
      (do let sights ← m'; let later ← n'; pure (sights ++ later)) := by
  obtain ⟨sights, hundisturbed, hm, hm'⟩ := h
  obtain ⟨later, hlater, hn, hn'⟩ := hlater
  refine ⟨sights ++ later, ?_, ?_, ?_⟩
  · intro before after hended
    exact (List.mem_append.1 hended).elim (hundisturbed before after) (hlater before after)
  · show ((m d₀).1 ++ (n (m d₀).2).1, (n (m d₀).2).2) = _
    rw [hm, hn]
  · show ((m' f₀).1 ++ (n' (m' f₀).2).1, (n' (m' f₀).2).2) = _
    rw [hm', hn']

/-- A single look at cores that agree about interrupts. -/
theorem Alike.look {depth depth' : InterruptDepth} {flag flag' : InterruptFlag}
    {change : InterruptDepth → InterruptDepth} {change' : InterruptFlag → InterruptFlag}
    (hdepth : change depth = depth') (hflag : change' flag = flag') (hfits : Fits depth' flag') :
    Alike depth depth' flag flag' (do modify change; pure [.enabled (← enabled)])
      (do modify change'; pure [.enabled (← enabled)]) := by
  subst hdepth hflag
  refine ⟨[.enabled ((change depth).depth == 0)], ?_, rfl, ?_⟩
  · intro before after hended
    simp at hended
  · rw [← hfits]
    rfl

mutual

/-- Where interrupts are masked, steps within sections change neither core. -/
theorem Inner.alike (step : Inner) {depth : InterruptDepth} (hmasked : depth.depth ≠ 0)
    (hroom : depth.depth.toNat + step.levels < 2 ^ 64) :
    Alike depth depth ⟨false⟩ ⟨false⟩ step.run step.run := by
  have hfits : Fits depth ⟨false⟩ := (beq_eq_false_iff_ne.2 hmasked).symm
  cases step with
  -- a depth that is not 0 stays as it is, and a flag that is cleared already does, too
  | disable => exact .look (if_neg hmasked) rfl hfits
  | pair body =>
    rw [Inner.levels] at hroom
    exact .paired hfits (by omega) (Inner.alike_body body (by omega))
  | block body =>
    rw [Inner.levels] at hroom
    exact .masked hfits (by omega) (Inner.alike_body body (by omega))

/-- The steps within a section are made one level deeper, where interrupts are masked. -/
theorem Inner.alike_body (steps : List Inner) {depth : InterruptDepth}
    (hroom : depth.depth.toNat + (Inner.levelsAll steps + 1) < 2 ^ 64) :
    Alike ⟨depth.depth + 1⟩ ⟨depth.depth + 1⟩ ⟨false⟩ ⟨false⟩ (Inner.runAll steps)
      (Inner.runAll steps) := by
  cases steps with
  | nil => exact .nil _ _
  | cons step rest =>
    rw [Inner.levelsAll] at hroom
    refine .append (Inner.alike step (masked_deeper (by omega)) ?_) (Inner.alike_body rest ?_)
    · rw [toNat_deeper (by omega)]
      omega
    · omega

end

/-- The states of the two cores outside of all sections. -/
inductive Outside : Nat → InterruptDepth → InterruptFlag → Prop where
  | enabled : Outside 0 ⟨0⟩ ⟨true⟩
  | disabled : Outside 1 ⟨1⟩ ⟨false⟩

theorem Outside.fits {level : Nat} {depth : InterruptDepth} {flag : InterruptFlag}
    (h : Outside level depth flag) : Fits depth flag := by
  cases h <;> rfl

theorem Outside.toNat_depth {level : Nat} {depth : InterruptDepth} {flag : InterruptFlag}
    (h : Outside level depth flag) : depth.depth.toNat = level := by
  cases h <;> rfl

/-- A step outside of all sections keeps the two cores in step. -/
theorem Outside.inner {level : Nat} {depth : InterruptDepth} {flag : InterruptFlag}
    (h : Outside level depth flag) (step : Inner) (hroom : level + step.levels < 2 ^ 64) :
    ∃ depth' flag', Outside (Outer.leaves level (.inner step)) depth' flag' ∧
      Alike depth depth' flag flag' step.run step.run := by
  rw [← h.toNat_depth] at hroom
  cases step with
  | disable =>
    refine ⟨⟨1⟩, ⟨false⟩, .disabled, .look ?_ rfl rfl⟩
    cases h <;> rfl
  | pair body =>
    rw [Inner.levels] at hroom
    exact ⟨depth, flag, h, .paired h.fits (by omega) (Inner.alike_body body hroom)⟩
  | block body =>
    rw [Inner.levels] at hroom
    exact ⟨depth, flag, h, .masked h.fits (by omega) (Inner.alike_body body hroom)⟩

theorem Outside.outer {level : Nat} {depth : InterruptDepth} {flag : InterruptFlag}
    (h : Outside level depth flag) (steps : List Outer)
    (hroom : Outer.levelsAll level steps < 2 ^ 64) :
    ∃ depth' flag', Alike depth depth' flag flag' (Outer.runAll steps) (Outer.runAll steps) := by
  induction steps generalizing level depth flag with
  | nil => exact ⟨depth, flag, .nil depth flag⟩
  | cons step rest ih =>
    cases step with
    | enable =>
      rw [Outer.levelsAll] at hroom
      obtain ⟨depth', flag', hrest⟩ := ih .enabled hroom
      exact ⟨depth', flag', .append (.look rfl rfl rfl) hrest⟩
    | inner step =>
      rw [Outer.levelsAll] at hroom
      obtain ⟨depth₁, flag₁, hafter, hstep⟩ := h.inner step (by omega)
      obtain ⟨depth', flag', hrest⟩ := ih hafter (by omega)
      exact ⟨depth', flag', hstep.append hrest⟩

/-- The two cores cannot be told apart, and sections leave interrupts as they found them. -/
structure NestingAlike (steps : List Outer) : Prop where
  same : sights ({} : InterruptDepth) steps = sights ({} : InterruptFlag) steps
  depth : Undisturbed (sights ({} : InterruptDepth) steps)
  flag : Undisturbed (sights ({} : InterruptFlag) steps)

/-- Whatever a program whose sections nest does, starting with interrupts enabled, a depth and a
flag show it the same, as long as the sections nest less deep than a 64-bit word counts. Interrupts
that are disabled outside of all sections count as one level, as they do in the depth: within them
there is room for one section less, because 2 ^ 64 - 1 sections there would bring the depth back
to 0. -/
theorem nesting_alike (steps : List Outer) (hroom : Outer.levelsAll 0 steps < 2 ^ 64) :
    NestingAlike steps := by
  obtain ⟨depth, flag, seen, hundisturbed, hdepth, hflag⟩ := Outside.enabled.outer steps hroom
  have hdepth : sights ({} : InterruptDepth) steps = seen := congrArg Prod.fst hdepth
  have hflag : sights ({} : InterruptFlag) steps = seen := congrArg Prod.fst hflag
  exact ⟨hdepth.trans hflag.symm, by rwa [hdepth], by rwa [hflag]⟩

/-- Interrupts are disabled within a section and outside of them, and enabled again. -/
def sectionsInSections : List Outer := [
  .inner (.pair [.block [.disable], .pair []]),
  .inner .disable,
  .inner (.block [.pair [.disable]]),
  .enable,
  .inner (.pair [])]

theorem nesting_alike_sectionsInSections :
    Outer.levelsAll 0 sectionsInSections < 2 ^ 64 ∧
      sights ({} : InterruptFlag) sectionsInSections =
        [.saved true, .enabled false,
            .enabled false, .enabled false, .enabled false, .ended false false,
            .saved false, .enabled false, .enabled false, .ended false false,
          .enabled true, .ended true true,
          .enabled false,
          .enabled false,
            .saved false, .enabled false, .enabled false, .enabled false, .ended false false,
          .enabled false, .ended false false,
          .enabled true,
          .saved true, .enabled false, .enabled true, .ended true true] ∧
      NestingAlike sectionsInSections :=
  ⟨by decide, by decide, nesting_alike sectionsInSections (by decide)⟩

end SignalKernel.Nesting
