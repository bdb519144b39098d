import Switchboard.Toml.Item
import Switchboard.Text.Utf8

/-!
# Excerpts

What is wrong with a document is said below an excerpt: the line where the span begins, with its
number, and marks below the span as far as it stays on that line. Columns count characters and marks
count bytes. At least one mark is made.
-/

namespace Switchboard.Toml

structure Excerpt where
  /-- The lines before, as far as their ends. -/
  linesBefore : Nat
  /-- The characters of the line before the span. -/
  columnsBefore : Nat
  line : List Char
  marks : Nat
  deriving DecidableEq, Repr

namespace Excerpt

def byteCount (cs : List Char) : Nat :=
  (Utf8.encodeChars cs).length

def lastLine (cs : List Char) : List Char :=
  (cs.reverse.takeWhile (· != '\n')).reverse

def of (text : List Char) (span : Span) : Excerpt :=
  let before := text.take (text.length - span.start)
  let behind := text.drop (text.length - span.start)
  let opening := lastLine before
  let line := opening ++ behind.takeWhile (· != '\n')
  let width := byteCount (behind.take (span.start - span.stop))
  ⟨before.count '\n', opening.length, line, max 1 (min width (byteCount line - opening.length))⟩

def render (e : Excerpt) (reason : String) : String :=
  let number := toString (e.linesBefore + 1)
  let margin := String.ofList (List.replicate (number.length + 1) ' ')
  "TOML parse error at line " ++ number ++ ", column " ++ toString (e.columnsBefore + 1) ++ "\n" ++
    margin ++ "|\n" ++
    number ++ " | " ++ String.ofList e.line ++ "\n" ++
    margin ++ "|" ++ String.ofList (List.replicate (e.columnsBefore + 1) ' ') ++
      String.ofList (List.replicate e.marks '^') ++ "\n" ++
    reason ++ "\n"

/-- What is wrong is said last, on lines of its own. -/
theorem exists_render_eq (e : Excerpt) (reason : String) :
    ∃ shown, e.render reason = shown ++ "\n" ++ reason ++ "\n" := by
  unfold render
  exact ⟨_, rfl⟩

end Excerpt

end Switchboard.Toml
