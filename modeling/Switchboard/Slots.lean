import Switchboard.Domains
import Switchboard.Level.Basic

/-!
# Slots

A slot holds at most one callback. One slot is shared by the whole process; two more stand by
themselves, so that what goes through one of them never meets what goes through another.

Some callbacks act on the shared slot when they are called: one empties it, one puts another
callback there, one hands its event on to whatever is held there, one level lower.
-/

namespace Switchboard

inductive Callback where
  | first
  /-- Takes note of the event, like `first`. -/
  | second
  /-- Takes note of the event and empties the shared slot. -/
  | clear
  /-- Takes note of the event and puts `first` into the shared slot. -/
  | replace
  /-- Takes note of the event and, above debug, hands it on to the shared slot one level lower. -/
  | nest
  | logger
  deriving DecidableEq, Repr

inductive SlotName where
  | shared | left | right
  deriving DecidableEq, Repr

def SlotName.all : List SlotName :=
  [shared, left, right]

structure Slots where
  shared : Option Callback
  left : Option Callback
  right : Option Callback
  deriving DecidableEq, Repr

namespace Slots

def empty : Slots :=
  ⟨none, none, none⟩

def get (s : Slots) : SlotName → Option Callback
  | .shared => s.shared
  | .left => s.left
  | .right => s.right

/-- Put a callback into a slot, or nothing, in place of what it holds. -/
def put (s : Slots) (name : SlotName) (cb : Option Callback) : Slots :=
  match name with
  | .shared => { s with shared := cb }
  | .left => { s with left := cb }
  | .right => { s with right := cb }

def isFilled (s : Slots) (name : SlotName) : Bool :=
  (s.get name).isSome

/-- What an empty slot shows of itself. A filled one shows where its callback lies in memory, which
is no property of the slot. -/
def inspect? (s : Slots) (name : SlotName) : Option String :=
  if s.isFilled name then none else some "LogSink \x7b callback: 0x0 \x7d"

@[simp] theorem get_put_self (s : Slots) (name : SlotName) (cb : Option Callback) :
    (s.put name cb).get name = cb := by
  cases name <;> rfl

theorem get_put_of_ne (s : Slots) {name other : SlotName} (h : other ≠ name)
    (cb : Option Callback) : (s.put name cb).get other = s.get other := by
  cases name <;> cases other <;> simp_all [put, get]

end Slots

/-- An event as it is delivered. A missing message is not the same as an empty one. -/
structure Call where
  domain : Handle
  level : Level
  message : Option Bytes
  deriving DecidableEq, Repr

/-- A message ends before its first zero byte. -/
def Call.wire (c : Call) : Call :=
  { c with message := c.message.map (·.takeWhile (· != 0)) }

structure Event where
  callback : Callback
  call : Call
  deriving DecidableEq, Repr

end Switchboard
