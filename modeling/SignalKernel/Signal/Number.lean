/-!
# Signal numbers

A signal is a number from 1 to 64. Callers may pass any number, so the functions here take a `Nat`
and `isValid` tells which ones name a signal. Those up to 31 are the standard signals, each with a
name of its own; from 32 on they are the realtime signals, of which every occurrence counts. Two
signals, kill and stop, cannot be caught, blocked or ignored.
-/

namespace SignalKernel.Signal

/-- The number of signals, and the highest valid number. -/
def last : Nat := 64

/-- The signal that ends a thread, whatever it blocks. -/
def kill : Nat := 9

/-- The signal that stops a thread, whatever it blocks. -/
def stop : Nat := 19

/-- The lowest realtime signal. -/
def realtimeFirst : Nat := 32

/-- The highest realtime signal. -/
def realtimeLast : Nat := 64

/-- The number names a signal. -/
def isValid (signal : Nat) : Bool :=
  1 ≤ signal && signal ≤ last

/-- The signal may be caught or blocked. -/
def isCatchable (signal : Nat) : Bool :=
  signal != kill && signal != stop

/-- The signal queues every occurrence instead of merging it into a pending one. -/
def isRealtime (signal : Nat) : Bool :=
  realtimeFirst ≤ signal && signal ≤ realtimeLast

/-- The position of a valid signal among the 64, counted from 0. -/
def lane? (signal : Nat) : Option (Fin 64) :=
  if h : 1 ≤ signal ∧ signal ≤ 64 then some ⟨signal - 1, by omega⟩ else none

/-- The signal at a position. -/
def ofLane (lane : Fin 64) : Nat :=
  lane.val + 1

/-- The word whose only bit is the signal's; without any bit if the number is not valid. -/
def bit (signal : Nat) : BitVec 64 :=
  if isValid signal then BitVec.twoPow 64 (signal - 1) else 0

/-- The names of the standard signals, from 1 on. -/
def standardNames : List String :=
  ["SIGHUP", "SIGINT", "SIGQUIT", "SIGILL", "SIGTRAP", "SIGABRT", "SIGBUS", "SIGFPE", "SIGKILL",
    "SIGUSR1", "SIGSEGV", "SIGUSR2", "SIGPIPE", "SIGALRM", "SIGTERM", "SIGSTKFLT", "SIGCHLD",
    "SIGCONT", "SIGSTOP", "SIGTSTP", "SIGTTIN", "SIGTTOU", "SIGURG", "SIGXCPU", "SIGXFSZ",
    "SIGVTALRM", "SIGPROF", "SIGWINCH", "SIGIO", "SIGPWR", "SIGSYS"]

/-- The standard signals in ascending order. -/
def standard : List Nat :=
  (List.range standardNames.length).map (· + 1)

/-- The name that records show. All realtime signals share one, and so do all invalid numbers. -/
def name (signal : Nat) : String :=
  if signal = 0 then "UNKNOWN"
  else match standardNames[signal - 1]? with
    | some name => name
    | none => if isRealtime signal then "SIGRT" else "UNKNOWN"

theorem isValid_iff {signal : Nat} : isValid signal ↔ 1 ≤ signal ∧ signal ≤ 64 := by
  rw [isValid, last, Bool.and_eq_true, decide_eq_true_eq, decide_eq_true_eq]

/-- A number is valid exactly if it has a position. -/
theorem isValid_iff_lane? {signal : Nat} : isValid signal ↔ (lane? signal).isSome := by
  rw [isValid_iff, lane?]
  split <;> simp_all

@[simp] theorem isValid_ofLane (lane : Fin 64) : isValid (ofLane lane) = true := by
  have hlane := lane.isLt
  exact isValid_iff.2 ⟨by unfold ofLane; omega, by unfold ofLane; omega⟩

@[simp] theorem lane?_ofLane (lane : Fin 64) : lane? (ofLane lane) = some lane := by
  have hlane := lane.isLt
  rw [lane?, ofLane, dif_pos ⟨by omega, by omega⟩]
  simp

/-- Different positions have different signals. -/
theorem ofLane_inj {lane other : Fin 64} : ofLane lane = ofLane other ↔ lane = other := by
  rw [Fin.ext_iff]
  exact Nat.add_right_cancel_iff

/-- A position gives back the number it came from. -/
theorem ofLane_of_lane? {signal : Nat} {lane : Fin 64} (h : lane? signal = some lane) :
    ofLane lane = signal := by
  unfold lane? at h
  split at h
  · cases h
    simp [ofLane]
    omega
  · cases h

end SignalKernel.Signal
