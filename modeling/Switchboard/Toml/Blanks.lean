/-!
# Blanks, line ends and comments

Between the tokens of a line there may be spaces and tabs. A line ends with a line feed, or with a
carriage return and a line feed; a carriage return by itself ends nothing, and stands nowhere in a
document. A comment reaches to the end of its line and holds no control character but tabs.
-/

namespace Switchboard.Toml

def isSpace (c : Char) : Bool :=
  c == ' ' || c == '\t'

def isControl (c : Char) : Bool :=
  c.toNat < 0x20 || c.toNat == 0x7F

def isPlain (c : Char) : Bool :=
  c == '\t' || !isControl c

def dropSpaces (s : List Char) : List Char :=
  s.dropWhile isSpace

/-- What is left behind the end of a line, if the text begins with one. -/
def newline? : List Char → Option (List Char)
  | '\n' :: r => some r
  | '\r' :: '\n' :: r => some r
  | _ => none

def dropComment : List Char → List Char
  | '#' :: r => r.dropWhile isPlain
  | s => s

/-- What is left behind the rest of a line that holds nothing more than a comment. The end of the
text ends a line too. -/
def lineEnd? (s : List Char) : Option (List Char) :=
  match dropComment (dropSpaces s) with
  | [] => some []
  | r => newline? r

def dropBlank : List Char → List Char
  | [] => []
  | '\r' :: '\n' :: r => dropBlank r
  | c :: r => if isSpace c || c == '\n' then dropBlank r else c :: r

/-- Drop spaces, line ends and comments, `comment` telling whether the text begins within one. -/
def dropTrivia (comment : Bool) : List Char → List Char
  | [] => []
  | '\r' :: '\n' :: r => dropTrivia false r
  | c :: r =>
    if c == '\n' then dropTrivia false r
    else if comment && isPlain c then dropTrivia true r
    else if !comment && isSpace c then dropTrivia false r
    else if !comment && c == '#' then dropTrivia true r
    else c :: r

end Switchboard.Toml
