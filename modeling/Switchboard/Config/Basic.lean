import Switchboard.Files.Path
import Switchboard.Level.Basic

/-!
# Configurations

A configuration says from which level on events are wanted, and which library they come from. By
default all events are wanted, and no library is named.
-/

namespace Switchboard

structure Config where
  minLevel : Level
  library : Option Bytes
  deriving DecidableEq, Repr

namespace Config

def default : Config :=
  ⟨.debug, none⟩

/-- Whether two configurations are the same: their libraries are if their paths are the same. -/
def same (a b : Config) : Bool :=
  a.minLevel == b.minLevel &&
    match a.library, b.library with
    | some p, some q => Path.same p q
    | none, none => true
    | _, _ => false

inductive Choice where
  | minLevel (l : Level)
  | library (path : Bytes)
  deriving DecidableEq, Repr

def choose (c : Config) : Choice → Config
  | .minLevel l => { c with minLevel := l }
  | .library path => { c with library := some path }

/-- The configuration that steps build from the default. -/
def build (choices : List Choice) : Config :=
  choices.foldl choose default

end Config

end Switchboard
