import Switchboard.Files.Tree
import Switchboard.World

/-!
# Opening libraries

A library is opened from a file. The path has to hold a slash, or the file would be looked for
elsewhere; the file has to be a library, and the library has to take registrations. A path may be
closed by one zero byte, which is no part of it, but it holds no other. Attempts and successes are
logged, with the path as it was given.

A process starts with gateways that are opened one after the other. One whose library cannot be
opened is left out, and those after it move up.
-/

namespace Switchboard

structure OpenedLibrary where
  place : Place
  image : Image
  deriving DecidableEq, Repr

def OpenedLibrary.gateway (opened : OpenedLibrary) (path : Bytes) : Gateway :=
  ⟨.opened path, .file opened.place⟩

namespace FileTree

def loadLibrary? (t : FileTree) (path : Bytes) : Option OpenedLibrary :=
  let path := Path.unclosed path
  if path.contains 0 || !path.contains Path.slash then none
  else
    match t.follow path with
    | .ok (place, .library image) => some ⟨place, image⟩
    | _ => none

def attemptRecord (path : Bytes) : Record :=
  ⟨.info, .loader, "Loading LiteCore library: " ++ Text.quoteBytes path⟩

def successRecord (path : Bytes) : Record :=
  ⟨.debug, .loader, "LiteCore logging API resolved in " ++ Text.quoteBytes path⟩

/-- Open the library that a path leads to, and say what is logged. -/
def openLibrary (t : FileTree) (path : Bytes) : Except Fault OpenedLibrary × List Record :=
  match t.loadLibrary? path with
  | none =>
    (.error (.notLoaded (Path.display path ++ ": " ++ loaderText)), [attemptRecord path])
  | some lib =>
    match lib.image.objection? with
    | none => (.ok lib, [attemptRecord path, successRecord path])
    | some fault => (.error fault, [attemptRecord path])

end FileTree

namespace Image

/-- A library with all that can be asked of one. -/
def complete : Image := ⟨true, true, false⟩

/-- A complete library that also logs while a registration is made. -/
def chatty : Image := ⟨true, true, true⟩

def nameless : Image := ⟨true, false, false⟩

def unregistering : Image := ⟨false, false, false⟩

end Image

/-- The libraries that lie wherever a process works, and a file that only looks like one. -/
def FileTree.stockAt (workplace : Place) : FileTree :=
  ⟨workplace,
    [(workplace ++ [Utf8.encode "full.so"], .library .complete),
      (workplace ++ [Utf8.encode "chatty.so"], .library .chatty),
      (workplace ++ [Utf8.encode "nodomain.so"], .library .nameless),
      (workplace ++ [Utf8.encode "nowrite.so"], .library .unregistering),
      (workplace ++ [Utf8.encode "garbage.so"], .text (Utf8.encode "garbage"))]⟩

/-- These files in a directory below the root. -/
def FileTree.stock : FileTree :=
  .stockAt [Utf8.encode "work"]

inductive GatewaySpec where
  | inner (handles : Domains) (refusal : Option Fault)
  | bare (refusal : Option Fault)
  | linked (handles : Domains)
  | opened (path : Bytes) (handles : Domains)
  deriving DecidableEq, Repr

namespace World

/-- A process without gateways. -/
def initial : World :=
  .fresh [] fun _ => .fresh .complete .unresolved none

def addGateway (w : World) (g : Gateway) (lib : Library) : World :=
  { w.setLibrary g.library lib with gateways := w.gateways ++ [g] }

/-- Add the gateway to a library that was opened. A library that another gateway leads to already
keeps track of what it was asked so far. -/
def addOpened (w : World) (path : Bytes) (opened : OpenedLibrary) (handles : Domains) : World :=
  let g := opened.gateway path
  w.addGateway g { w.library g with image := opened.image, handles := handles }

def openGateway (files : FileTree) (w : World) : GatewaySpec → Outcome (Except Fault Unit)
  | .inner handles refusal =>
    let g : Gateway := ⟨.inner, .own w.gateways.length⟩
    .plain (.ok ()) (w.addGateway g (.fresh .complete handles refusal))
  | .bare refusal =>
    let g : Gateway := ⟨.bare, .own w.gateways.length⟩
    .plain (.ok ()) (w.addGateway g (.fresh .complete .unresolved refusal))
  | .linked handles =>
    let g := Gateway.linked
    .plain (.ok ()) (w.addGateway g { w.library g with handles := handles })
  | .opened path handles =>
    match files.openLibrary path with
    | (.error fault, records) => ⟨.error fault, w, [], records⟩
    | (.ok opened, records) => ⟨.ok (), w.addOpened path opened handles, [], records⟩

/-- Open gateways one after the other: the outcome of each, the state, and what is logged. -/
def openAll (files : FileTree) : World → List GatewaySpec → Outcome (List (Except Fault Unit))
  | w, [] => .plain [] w
  | w, spec :: specs =>
    let o := w.openGateway files spec
    let rest := openAll files o.world specs
    ⟨o.answer :: rest.answer, rest.world, o.events ++ rest.events, o.records ++ rest.records⟩

end World

end Switchboard
