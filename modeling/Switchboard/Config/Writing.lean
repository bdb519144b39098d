import Switchboard.Config.Basic
import Switchboard.Level.Datum
import Switchboard.Toml.Writer

/-!
# Writing configurations

A configuration is written as a document of one line for the level and, if a library is named, one
assignment for the library. A path that is not text cannot be written.
-/

namespace Switchboard.Config

def unwritableText : String := "path contains invalid UTF-8 characters"

def writeLevel (l : Level) : List Char :=
  match l.name? with
  | some name => Toml.writeString name.toList
  | none => (toString l.raw.toInt).toList

def writeLine (key : String) (value : List Char) : List Char :=
  key.toList ++ " = ".toList ++ value ++ ['\n']

def write (c : Config) : Except String String :=
  let level := writeLine "min_level" (writeLevel c.minLevel)
  match c.library with
  | none => .ok (String.ofList level)
  | some path =>
    match Utf8.decodeChars? path with
    | some cs => .ok (String.ofList (level ++ writeLine "library" (Toml.writeString cs)))
    | none => .error unwritableText

end Switchboard.Config
