import SignalKernel.Signal.Error
import SignalKernel.SignalSet.Display

/-!
# A register that holds a set

A register is changed and read by a sequence of calls, each of which has an answer. This is the set
algebra as a program of its own.
-/

namespace SignalKernel.SignalSet

/-- An operator on sets that can also be assigned. -/
inductive Operator where
  | union
  | inter
  | sdiff

/-- What an assigning operator makes of the register's word. It works on the words themselves. -/
def Operator.assign : Operator → (register word : BitVec 64) → BitVec 64
  | .union, register, word => register ||| word
  | .inter, register, word => register &&& word
  | .sdiff, register, word => register &&& ~~~word

/-- A change of the register, or a question about it. -/
inductive RegisterCall where
  /-- Add one signal. -/
  | insert (signal : Nat)
  /-- Take one signal away. -/
  | erase (signal : Nat)
  /-- Ask whether a signal is a member. -/
  | contains (signal : Nat)
  /-- Add the members of another set. -/
  | union (set : SignalSet)
  /-- Keep the members that are in another set too. -/
  | inter (set : SignalSet)
  /-- Take the members of another set away. -/
  | sdiff (set : SignalSet)
  /-- Combine the register with another set in place. -/
  | assign (operator : Operator) (set : SignalSet)
  /-- Take another set instead. -/
  | replace (set : SignalSet)
  /-- Take all the signals that are no members instead. -/
  | complement
  /-- Ask whether the register equals another set. -/
  | equals (set : SignalSet)
  /-- Read the word. -/
  | word
  /-- Ask whether there is no member. -/
  | isEmpty
  /-- Ask for the number of members. -/
  | size
  /-- Ask for the lowest member. -/
  | first
  /-- Ask for the members in order. -/
  | members
  /-- Start a traversal and ask for the next member `count` times. -/
  | traverse (count : Nat)
  /-- Write the members out on one line. -/
  | compact
  /-- Write the members out over several lines. -/
  | indented
  /-- Write the members out in hexadecimal digits. -/
  | compactHexadecimal
  /-- Write the word out in all its layouts. -/
  | dump
  /-- A call that nobody knows; it does nothing. -/
  | unknown

/-- The answer to a call. -/
inductive RegisterAnswer where
  /-- A checked change was made. -/
  | done
  /-- A checked change was refused, and the register is as it was. -/
  | refused (error : SignalError)
  /-- A change that cannot fail was made. -/
  | changed
  | truth (value : Bool)
  | word (value : BitVec 64)
  | number (value : Nat)
  | signal (value : Option Nat)
  | members (signals : List Nat)
  /-- What each request brought, the bounds on what is left, the traversal written out, and what is
  left. -/
  | traversal (visited : List (Option Nat)) (bounds : Nat × Nat) (shown : String) (rest : List Nat)
  | text (shown : String)
  | texts (shown : List String)
  /-- Nobody knows the call. -/
  | unknown

/-- The answer to a checked change, and the register after it. -/
def checked (s : SignalSet) : Option SignalSet → RegisterAnswer × SignalSet
  | some changed => (.done, changed)
  | none => (.refused .invalidSignal, s)

/-- Carry out one call. -/
def answer (s : SignalSet) : RegisterCall → RegisterAnswer × SignalSet
  | .insert signal => s.checked (s.insert? signal)
  | .erase signal => s.checked (s.erase? signal)
  | .contains signal => (.truth (s.contains signal), s)
  | .union set => (.changed, s ∪ set)
  | .inter set => (.changed, s ∩ set)
  | .sdiff set => (.changed, s \ set)
  | .assign operator set => (.changed, ⟨operator.assign s.bits set.bits⟩)
  | .replace set => (.changed, set)
  | .complement => (.changed, ~~~s)
  | .equals set => (.truth (s = set), s)
  | .word => (.word s.bits, s)
  | .isEmpty => (.truth s.isEmpty, s)
  | .size => (.number s.size, s)
  | .first => (.signal s.first?, s)
  | .members => (.members s.toList, s)
  | .traverse count =>
      let (visited, c) := s.cursor.take count
      (.traversal visited c.sizeBounds c.display.compact c.toList, s)
  | .compact => (.text s.display.compact, s)
  | .indented => (.text s.display.indented, s)
  | .compactHexadecimal => (.text s.displayHexadecimal.compact, s)
  | .dump => (.texts s.dump, s)
  | .unknown => (.unknown, s)

/-- Carry out the calls in order, keeping each answer together with the register after it. -/
def answers (s : SignalSet) : List RegisterCall → List (RegisterAnswer × SignalSet)
  | [] => []
  | call :: rest =>
      let (given, after) := s.answer call
      (given, after) :: after.answers rest

end SignalKernel.SignalSet
