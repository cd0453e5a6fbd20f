/-!
# Levels of log records

A record has a level, and a threshold lets records through up to a level or none at all.
-/

namespace SignalKernel

/-- How important a record is, the most important first. -/
inductive Level where
  | error
  | warn
  | info
  | debug
  | trace
deriving DecidableEq

namespace Level

/-- The level's place, counted from the most important one. -/
def rank : Level → Nat
  | error => 1
  | warn => 2
  | info => 3
  | debug => 4
  | trace => 5

/-- The level's name in lines. -/
def name : Level → String
  | error => "ERROR"
  | warn => "WARN"
  | info => "INFO"
  | debug => "DEBUG"
  | trace => "TRACE"

/-- The level with a name, in upper or lower case. -/
def ofName? (text : String) : Option Level :=
  [error, warn, info, debug, trace].find? fun level ↦ level.name == text.toUpper

end Level

/-- Which records get through. -/
inductive Threshold where
  /-- None do. -/
  | off
  /-- Those of a level, and those more important. -/
  | upTo (level : Level)
deriving DecidableEq

namespace Threshold

/-- Records of the level get through. -/
def allows : Threshold → Level → Bool
  | off, _ => false
  | upTo limit, level => level.rank ≤ limit.rank

/-- The threshold's name. -/
def name : Threshold → String
  | off => "OFF"
  | upTo level => level.name

/-- The threshold with a name, in upper or lower case. A name that is no level's lets nothing
through. -/
def ofName (text : String) : Threshold :=
  match Level.ofName? text with
  | some level => upTo level
  | none => off

end Threshold

end SignalKernel
