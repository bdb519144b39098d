import Switchboard.Text.Quoted
import Switchboard.Toml.Blanks

/-!
# Writing strings

A string is written in the first of four styles that leaves every character as it is: between
double quotes, single quotes, three double quotes, three single quotes. Where none does, characters
are escaped between double quotes, or between three of them if the string has more than one line.

Between three quotes the text begins on a line of its own if it has more than one.
-/

namespace Switchboard.Toml

inductive Style where
  | basic | literal | multilineBasic | multilineLiteral
  deriving DecidableEq, Repr

def needsEscape (s : List Char) : Bool :=
  s.any fun c => isControl c && c != '\t' && c != '\n'

def hasTriple (q : Char) : List Char → Bool
  | a :: b :: c :: r => (a == q && b == q && c == q) || hasTriple q (b :: c :: r)
  | _ => false

def Style.of (s : List Char) : Style :=
  let escaped := needsEscape s
  if !escaped && !s.contains '\\' && !s.contains '"' && !s.contains '\n' then .basic
  else if !escaped && !s.contains '\'' && !s.contains '\n' then .literal
  else if !escaped && !s.contains '\\' && !hasTriple '"' s then .multilineBasic
  else if !escaped && !hasTriple '\'' s then .multilineLiteral
  else if s.contains '\n' then .multilineBasic
  else .basic

/-- A character between double quotes, where it is neither a quote nor a line feed. -/
def escapeChar (c : Char) : List Char :=
  if c = '\x08' then ['\\', 'b']
  else if c = '\t' then ['\\', 't']
  else if c = '\x0c' then ['\\', 'f']
  else if c = '\r' then ['\\', 'r']
  else if c = '\\' then ['\\', '\\']
  else if isControl c then
    ['\\', 'u', '0', '0', Text.hexDigit (c.toNat / 16), Text.hexDigit (c.toNat % 16)]
  else [c]

def escapeLineChar (c : Char) : List Char :=
  if c = '"' then ['\\', '"'] else if c = '\n' then ['\\', 'n'] else escapeChar c

def escapeLine (s : List Char) : List Char :=
  s.flatMap escapeLineChar

/-- A string between three double quotes, `run` quotes standing directly before it. The third quote
in a row is escaped, and quotes are counted anew behind it. -/
def escapeLines (run : Nat) : List Char → List Char
  | [] => []
  | c :: r =>
    if c = '"' then
      if run = 2 then '\\' :: '"' :: escapeLines 0 r else '"' :: escapeLines (run + 1) r
    else if c = '\n' then '\n' :: escapeLines 0 r
    else escapeChar c ++ escapeLines 0 r

/-- The line feed that puts a text of several lines on a line of its own. -/
def opening (s : List Char) : List Char :=
  if s.contains '\n' then ['\n'] else []

def Style.write (style : Style) (s : List Char) : List Char :=
  match style with
  | .basic => ['"'] ++ escapeLine s ++ ['"']
  | .literal => ['\''] ++ s ++ ['\'']
  | .multilineBasic => ['"', '"', '"'] ++ opening s ++ escapeLines 0 s ++ ['"', '"', '"']
  | .multilineLiteral => ['\'', '\'', '\''] ++ opening s ++ s ++ ['\'', '\'', '\'']

def writeString (s : List Char) : List Char :=
  (Style.of s).write s

end Switchboard.Toml
