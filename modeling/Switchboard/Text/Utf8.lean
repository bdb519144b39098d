/-!
# UTF-8

Bytes are read as a sequence of pieces: characters, and ill-formed stretches between them. A
stretch is as long as a beginning of some character goes (`Pending`), and at least one byte long.

Reading byte by byte is a run of `step` over the bytes, ended by `flush`. What an ASCII byte does
does not depend on what came before it, except that it closes a stretch that was still open, as
the end of the bytes does; so bytes may be read in parts around it (`pieces_append_ascii`).
-/

namespace Switchboard

/-- A byte string: a path, a message, the content of a file. -/
abbrev Bytes := List UInt8

namespace Utf8

def encodeChar (c : Char) : Bytes :=
  let n := c.toNat
  if n < 0x80 then
    [UInt8.ofNat n]
  else if n < 0x800 then
    [UInt8.ofNat (0xC0 + n / 0x40), UInt8.ofNat (0x80 + n % 0x40)]
  else if n < 0x10000 then
    [UInt8.ofNat (0xE0 + n / 0x1000), UInt8.ofNat (0x80 + n / 0x40 % 0x40),
      UInt8.ofNat (0x80 + n % 0x40)]
  else
    [UInt8.ofNat (0xF0 + n / 0x40000), UInt8.ofNat (0x80 + n / 0x1000 % 0x40),
      UInt8.ofNat (0x80 + n / 0x40 % 0x40), UInt8.ofNat (0x80 + n % 0x40)]

def encodeChars (cs : List Char) : Bytes :=
  cs.flatMap encodeChar

def encode (s : String) : Bytes :=
  encodeChars s.toList

/-- A character read in part: the bytes so far, the code point they begin, how many bytes are due
after the next one, and the range the next one has to be in. -/
structure Pending where
  seen : Bytes
  code : Nat
  more : Nat
  low : Nat
  high : Nat

/-- A character, or a stretch of bytes that belongs to none. -/
inductive Piece where
  | char (c : Char)
  | broken (bytes : Bytes)
  deriving DecidableEq, Repr

/-- The bytes that a piece was read from. -/
def Piece.bytes : Piece → Bytes
  | .char c => encodeChar c
  | .broken bytes => bytes

/-- The first byte of a character, read where none is pending. The second byte's range leaves out
the spellings that are longer than needed, the surrogates, and what lies above U+10FFFF. -/
def start (b : UInt8) : List Piece × Option Pending :=
  let n := b.toNat
  if n < 0x80 then ([.char (Char.ofNat n)], none)
  else if n < 0xC2 then ([.broken [b]], none)
  else if n < 0xE0 then ([], some ⟨[b], n - 0xC0, 0, 0x80, 0xBF⟩)
  else if n < 0xF0 then
    ([], some ⟨[b], n - 0xE0, 1, if n = 0xE0 then 0xA0 else 0x80, if n = 0xED then 0x9F else 0xBF⟩)
  else if n < 0xF5 then
    ([], some ⟨[b], n - 0xF0, 2, if n = 0xF0 then 0x90 else 0x80, if n = 0xF4 then 0x8F else 0xBF⟩)
  else ([.broken [b]], none)

/-- Read one byte: the pieces that it completes, and what is pending after it. -/
def step : Option Pending → UInt8 → List Piece × Option Pending
  | none, b => start b
  | some p, b =>
    let n := b.toNat
    if p.low ≤ n ∧ n ≤ p.high then
      let code := p.code * 0x40 + (n - 0x80)
      match p.more with
      | 0 => ([.char (Char.ofNat code)], none)
      | k + 1 => ([], some ⟨p.seen ++ [b], code, k, 0x80, 0xBF⟩)
    else
      let (out, q) := start b
      (.broken p.seen :: out, q)

/-- What the end of the bytes makes of a character that is still pending. -/
def flush : Option Pending → List Piece
  | none => []
  | some p => [.broken p.seen]

def scan (p : Option Pending) : Bytes → List Piece
  | [] => flush p
  | b :: bs => (step p b).1 ++ scan (step p b).2 bs

def pieces (bs : Bytes) : List Piece :=
  scan none bs

def Piece.char? : Piece → Option Char
  | .char c => some c
  | .broken _ => none

/-- The text that the bytes spell, if they spell one. -/
def decodeChars? (bs : Bytes) : Option (List Char) :=
  (pieces bs).mapM Piece.char?

def decode? (bs : Bytes) : Option String :=
  (decodeChars? bs).map String.ofList

/-- What stands for a piece where every piece has to be shown: U+FFFD for an ill-formed stretch. -/
def Piece.shown : Piece → Char
  | .char c => c
  | .broken _ => '\uFFFD'

def lossyChars (bs : Bytes) : List Char :=
  (pieces bs).map Piece.shown

def lossy (bs : Bytes) : String :=
  String.ofList (lossyChars bs)

/-- No ASCII byte continues what is pending. -/
def Continues (p : Option Pending) : Prop :=
  ∀ q ∈ p, 0x80 ≤ q.low

theorem continues_none : Continues none := by
  simp [Continues]

theorem continues_start (b : UInt8) : Continues (start b).2 := by
  unfold start
  simp only
  repeat' split
  all_goals simp [Continues]

theorem continues_step (p : Option Pending) (b : UInt8) : Continues (step p b).2 := by
  cases p with
  | none => exact continues_start b
  | some p =>
    simp only [step]
    split
    · split <;> simp [Continues]
    · exact continues_start b

theorem step_ascii {p : Option Pending} (hp : Continues p) {b : UInt8} (h : b.toNat < 0x80) :
    step p b = (flush p ++ [.char (Char.ofNat b.toNat)], none) := by
  cases p with
  | none => simp [step, start, flush, h]
  | some p =>
    have : 0x80 ≤ p.low := hp p rfl
    have hn : ¬ (p.low ≤ b.toNat ∧ b.toNat ≤ p.high) := by omega
    simp [step, start, flush, h, hn]

theorem scan_append_ascii {b : UInt8} (h : b.toNat < 0x80) (r : Bytes) :
    ∀ (a : Bytes) {p : Option Pending}, Continues p →
      scan p (a ++ b :: r) = scan p a ++ .char (Char.ofNat b.toNat) :: scan none r
  | [], p, hp => by simp [scan, step_ascii hp h]
  | c :: a, p, _ => by simp [scan, scan_append_ascii h r a (continues_step p c)]

theorem pieces_append_ascii {b : UInt8} (h : b.toNat < 0x80) (a r : Bytes) :
    pieces (a ++ b :: r) = pieces a ++ .char (Char.ofNat b.toNat) :: pieces r :=
  scan_append_ascii h r a continues_none

end Utf8

end Switchboard
