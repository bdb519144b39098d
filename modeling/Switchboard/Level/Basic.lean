/-!
# Levels

A level is a signed number of eight bits. Six of them are known by a name, from debug up to none;
every other number is carried along as it is, and only refused where a library is asked to take it
as a threshold.
-/

namespace Switchboard

structure Level where
  raw : Int8
  deriving DecidableEq, Repr, Inhabited

namespace Level

def debug : Level := ⟨0⟩
def verbose : Level := ⟨1⟩
def info : Level := ⟨2⟩
def warning : Level := ⟨3⟩
def error : Level := ⟨4⟩

/-- The level above every event: as a threshold, it lets nothing through but itself. -/
def off : Level := ⟨5⟩

def isKnown (l : Level) : Bool :=
  debug.raw ≤ l.raw && l.raw ≤ off.raw

def name? (l : Level) : Option String :=
  match l.raw.toInt with
  | 0 => some "debug"
  | 1 => some "verbose"
  | 2 => some "info"
  | 3 => some "warning"
  | 4 => some "error"
  | 5 => some "none"
  | _ => none

def display (l : Level) : String :=
  match l.name? with
  | some name => name
  | none => "level(" ++ toString l.raw.toInt ++ ")"

def inspect (l : Level) : String :=
  "LogLevel(" ++ toString l.raw.toInt ++ ")"

instance : LE Level := ⟨fun a b => a.raw ≤ b.raw⟩

instance (a b : Level) : Decidable (a ≤ b) :=
  inferInstanceAs (Decidable (a.raw ≤ b.raw))

def compare (a b : Level) : Ordering :=
  Ord.compare a.raw.toInt b.raw.toInt

def sort (ls : List Level) : List Level :=
  ls.mergeSort fun a b => decide (a ≤ b)

/-- The level of an integer, if the integer fits into eight bits. -/
def ofInt? (n : Int) : Option Level :=
  if Int8.minValue.toInt ≤ n ∧ n ≤ Int8.maxValue.toInt then some ⟨Int8.ofInt n⟩ else none

/-- How many levels there are from a level down to debug: none below debug. -/
def depth (l : Level) : Nat :=
  l.raw.toInt.toNat

def pred (l : Level) : Level :=
  ⟨l.raw - 1⟩

theorem isKnown_iff {l : Level} : l.isKnown ↔ 0 ≤ l.raw.toInt ∧ l.raw.toInt ≤ 5 := by
  simp [isKnown, debug, off, Int8.le_iff_toInt_le]

end Level

end Switchboard
