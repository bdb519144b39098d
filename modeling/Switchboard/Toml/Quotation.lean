import Switchboard.Toml.Blanks

/-!
# Quoted strings

A string stands between double quotes, where a backslash begins an escape, or between single quotes,
where nothing is escaped. Between three quotes of a kind it may span lines: a line end directly
behind the opening quotes is dropped, every other is a line feed, and up to two quotes of the kind
may stand together, also directly before the closing ones. Between three double quotes a backslash
at the end of a line drops the blanks up to the next character.

A reader gives the content and what is left of the text. Where more than one character is consumed
at once, the number of those still to be dropped is handed on, so each reader recurses on the text.
-/

namespace Switchboard.Toml

/-- What a reader gives: what it read, and what is left of the text. -/
abbrev Reader (α : Type) := List Char → Option (α × List Char)

def push (c : Char) (rest : Option (List Char × List Char)) : Option (List Char × List Char) :=
  rest.map fun (cs, left) => (c :: cs, left)

def hexValue? (c : Char) : Option Nat :=
  let n := c.toNat
  if 0x30 ≤ n ∧ n ≤ 0x39 then some (n - 0x30)
  else if 0x41 ≤ n ∧ n ≤ 0x46 then some (n - 0x41 + 10)
  else if 0x61 ≤ n ∧ n ≤ 0x66 then some (n - 0x61 + 10)
  else none

def codePoint? (digits : List Char) : Option Char :=
  (digits.mapM hexValue?).bind fun ds =>
    let n := ds.foldl (fun n d => n * 16 + d) 0
    if n.isValidChar then some (Char.ofNat n) else none

def letterEscape? : Char → Option Char
  | 'b' => some '\x08'
  | 't' => some '\t'
  | 'n' => some '\n'
  | 'f' => some '\x0c'
  | 'r' => some '\r'
  | '"' => some '"'
  | '\\' => some '\\'
  | _ => none

/-- The character of the escape behind a backslash, and how many characters the escape has. -/
def escape? : List Char → Option (Char × Nat)
  | 'u' :: r => if (r.take 4).length = 4 then (codePoint? (r.take 4)).map (·, 5) else none
  | 'U' :: r => if (r.take 8).length = 8 then (codePoint? (r.take 8)).map (·, 9) else none
  | c :: _ => (letterEscape? c).map (·, 1)
  | [] => none

/-- How many characters behind a backslash it drops, if a line ends there. -/
def gap? (s : List Char) : Option Nat :=
  (newline? (dropSpaces s)).map fun r => s.length - (dropBlank r).length

def basicBody : Nat → Reader (List Char)
  | _, [] => none
  | skip + 1, _ :: r => basicBody skip r
  | 0, c :: r =>
    if c = '"' then some ([], r)
    else if c = '\\' then
      match escape? r with
      | some (e, n) => push e (basicBody n r)
      | none => none
    else if isPlain c then push c (basicBody 0 r)
    else none

def literalBody : Reader (List Char)
  | [] => none
  | c :: r =>
    if c = '\'' then some ([], r)
    else if isPlain c then push c (literalBody r)
    else none

/-- The content that closing quotes of a kind add, read behind three of them: the quotes beyond
three come first and belong to the content. -/
def closing (q : Char) : List Char → List Char × List Char
  | c :: d :: r =>
    if c = q then (if d = q then ([q, q], r) else ([q], d :: r)) else ([], c :: d :: r)
  | [c] => if c = q then ([q], []) else ([], [c])
  | [] => ([], [])

def opensThree (q : Char) : List Char → Bool
  | a :: b :: c :: _ => a == q && b == q && c == q
  | _ => false

def multilineBasicBody : Nat → Reader (List Char)
  | _, [] => none
  | skip + 1, _ :: r => multilineBasicBody skip r
  | 0, c :: r =>
    if opensThree '"' (c :: r) then some (closing '"' (r.drop 2))
    else if c = '\\' then
      match escape? r, gap? r with
      | some (e, n), _ => push e (multilineBasicBody n r)
      | none, some n => multilineBasicBody n r
      | none, none => none
    else if c = '\n' || isPlain c then push c (multilineBasicBody 0 r)
    else if (newline? (c :: r)).isSome then multilineBasicBody 0 r
    else none

def multilineLiteralBody : Reader (List Char)
  | [] => none
  | c :: r =>
    if opensThree '\'' (c :: r) then some (closing '\'' (r.drop 2))
    else if c = '\n' || isPlain c then push c (multilineLiteralBody r)
    else if (newline? (c :: r)).isSome then multilineLiteralBody r
    else none

def dropNewline (s : List Char) : List Char :=
  (newline? s).getD s

def quotedLine : Reader (List Char)
  | '"' :: r => basicBody 0 r
  | '\'' :: r => literalBody r
  | _ => none

/-- A quoted string of any style. -/
def quotation (s : List Char) : Option (List Char × List Char) :=
  if opensThree '"' s then multilineBasicBody 0 (dropNewline (s.drop 3))
  else if opensThree '\'' s then multilineLiteralBody (dropNewline (s.drop 3))
  else quotedLine s

end Switchboard.Toml
