import Switchboard.Fault
import Switchboard.Slots

/-!
# Logging libraries

A library delivers its events to the registration it accepted last, if they are at or above the
level that was registered with it. A registration names the slot that events go to, and asks for
their text to be expanded.

A library answers for the handles of its domains, and keeps track of what it was asked: how often,
and the last five names as the digits of a number. A talkative library logs one event for each known
level while a registration is made, at once after it has taken effect.
-/

namespace Switchboard

structure Registration where
  level : Level
  via : SlotName
  preformatted : Bool
  deriving DecidableEq, Repr

/-- What a library is built with: whether it takes registrations, whether it can be asked for its
domains, whether it logs while a registration is made. -/
structure Image where
  registers : Bool
  namesDomains : Bool
  talkative : Bool
  deriving DecidableEq, Repr

/-- Stands for the loader's own words. -/
def loaderText : String := "<loader>"

/-- Why no registration can be made, if none can. -/
def Image.objection? (image : Image) : Option Fault :=
  if image.registers then none
  else some (.incomplete ("c4log_writeToCallback (" ++ loaderText ++ ")"))

structure Library where
  image : Image
  handles : Domains
  /-- The fault with which every registration is refused, if they are. -/
  refusal : Option Fault
  accepted : Nat
  current : Option Registration
  lookups : Nat
  creates : Nat
  order : Nat
  deriving DecidableEq, Repr

namespace Library

/-- A library that nothing was asked of so far. -/
def fresh (image : Image) (handles : Domains) (refusal : Option Fault) : Library :=
  ⟨image, handles, refusal, 0, none, 0, 0, 0⟩

/-- The digit of a name: the place of its domain, counted from one. -/
def orderDigit (name : String) : Nat :=
  match Domain.ofName? name with
  | some .general => 1
  | some .database => 2
  | some .query => 3
  | some .sync => 4
  | some .websocket => 5
  | none => 0

/-- Ask a library for a domain by its name, with or without leave to create it. -/
def lookup (create : Bool) (name : String) : StateM Library Handle := fun lib =>
  let handle := ((Domain.ofName? name).map lib.handles.get).getD .null
  (handle, { lib with
    lookups := lib.lookups + 1
    creates := lib.creates + (if create then 1 else 0)
    order := (lib.order * 10 + orderDigit name) % 100000 })

def ask (lib : Library) : Domains × Library :=
  (Domains.ask (lookup false)).run lib

def accept (lib : Library) (r : Registration) : Library :=
  { lib with accepted := lib.accepted + 1, current := some r }

def chatterText : Bytes :=
  Utf8.encode "stub says %d"

/-- The events that a library logs while a registration at this level is made: one for each known
level from there on, the domains in turn, and the last of them without a message. -/
def chatter (lib : Library) (level : Level) : List Call :=
  let calls : List Call :=
    [⟨lib.handles.general, .debug, some chatterText⟩,
      ⟨lib.handles.database, .verbose, some chatterText⟩,
      ⟨lib.handles.query, .info, some chatterText⟩,
      ⟨lib.handles.sync, .warning, some chatterText⟩,
      ⟨lib.handles.websocket, .error, some chatterText⟩,
      ⟨lib.handles.general, .off, none⟩]
  if lib.image.talkative then calls.filter fun c => level ≤ c.level else []

/-- Where the library delivers an event of this level. -/
def destination? (lib : Library) (level : Level) : Option SlotName :=
  match lib.current with
  | some r => if r.level ≤ level then some r.via else none
  | none => none

end Library

end Switchboard
