import Switchboard.Library
import Switchboard.Record

/-!
# Gateways

A gateway is the way to a library: it passes registrations on and asks for domains. Several gateways
may lead to one library, since a library is in a process only once.

The kind of a gateway decides what it does on the way. Only a bare gateway lets an unknown level
through to its library, and it knows no domains. A gateway to an opened library looks for the way to
register each time anew. It asks for the domains if the library can be asked, and warns if it cannot.
-/

namespace Switchboard

/-- What a library is known by within the process: the gateway it was made for, the program it is
linked into, or the place of its file. -/
inductive LibraryId where
  | own (index : Nat)
  | linked
  | file (place : List Bytes)
  deriving DecidableEq, Repr

inductive GatewayKind where
  /-- Leads to a library that is part of the program, and knows its domains without asking. -/
  | inner
  /-- Leads to a library that is part of the program, and does nothing but register. -/
  | bare
  | linked
  | opened (path : Bytes)
  deriving DecidableEq, Repr

structure Gateway where
  kind : GatewayKind
  library : LibraryId
  deriving DecidableEq, Repr

def Gateway.linked : Gateway :=
  ⟨.linked, .linked⟩

namespace GatewayKind

/-- Why a registration at this level is not passed on, if it is not. -/
def objection? (kind : GatewayKind) (lib : Library) (level : Level) : Option Fault :=
  let unknown := if level.isKnown then none else some (.unknownLevel level)
  match kind with
  | .inner => lib.refusal.or unknown
  | .bare => lib.refusal
  | .linked => unknown
  | .opened _ => unknown.or lib.image.objection?

def register (kind : GatewayKind) (lib : Library) (level : Level) (via : SlotName) :
    Except Fault Library :=
  match kind.objection? lib level with
  | some fault => .error fault
  | none => .ok (lib.accept ⟨level, via, true⟩)

def unnamedRecord (path : Bytes) : Record :=
  ⟨.warn, .loader, "c4log_getDomain not exported by " ++ Text.quoteBytes path ++
    "; domains will be unnamed"⟩

/-- The domains that a gateway knows, the library after being asked, and what is logged. -/
def askDomains (kind : GatewayKind) (lib : Library) : Domains × Library × List Record :=
  let asked : Domains × Library × List Record := (lib.ask.1, lib.ask.2, [])
  match kind with
  | .inner => (lib.handles, { lib with lookups := lib.lookups + 1 }, [])
  | .bare => (.unresolved, lib, [])
  | .linked => asked
  | .opened path =>
    if lib.image.namesDomains then asked else (.unresolved, lib, [unnamedRecord path])

end GatewayKind

end Switchboard
