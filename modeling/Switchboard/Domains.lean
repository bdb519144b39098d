import Switchboard.Text.Quoted

/-!
# Domains

An event belongs to a domain, and a domain is known by its handle alone: two handles are the same
domain if they are equal. A library has five domains of its own, each with a name under which it
is looked up and a tag under which its events are shown.

A handle is tagged as the first of the five domains that has it. A domain that could not be looked
up has the null handle, and the null handle has no tag.
-/

namespace Switchboard

structure Handle where
  raw : UInt64
  deriving DecidableEq, Repr, Inhabited

namespace Handle

def null : Handle := ⟨0⟩

def isNull (h : Handle) : Bool :=
  h == null

def inspect (h : Handle) : String :=
  "LogDomain(0x" ++ String.ofList (Text.hex h.raw.toNat) ++ ")"

end Handle

inductive Domain where
  | general | database | query | sync | websocket
  deriving DecidableEq, Repr

namespace Domain

/-- The domains in the order in which they are looked up and matched. -/
def all : List Domain :=
  [general, database, query, sync, websocket]

def name : Domain → String
  | general => ""
  | database => "DB"
  | query => "Query"
  | sync => "Sync"
  | websocket => "WS"

def tag : Domain → String
  | general => "def"
  | database => "db"
  | query => "query"
  | sync => "sync"
  | websocket => "websock"

def ofName? (name : String) : Option Domain :=
  all.find? fun d => d.name == name

end Domain

/-- The tag of a handle that is none of the known domains. -/
def unknownTag : String := "unkndmn"

structure Domains where
  general : Handle
  database : Handle
  query : Handle
  sync : Handle
  websocket : Handle
  deriving DecidableEq, Repr, Inhabited

namespace Domains

/-- No domain could be looked up. -/
def unresolved : Domains :=
  ⟨.null, .null, .null, .null, .null⟩

def get (ds : Domains) : Domain → Handle
  | .general => ds.general
  | .database => ds.database
  | .query => ds.query
  | .sync => ds.sync
  | .websocket => ds.websocket

def toList (ds : Domains) : List Handle :=
  Domain.all.map ds.get

def ask {m : Type → Type} [Monad m] (lookup : String → m Handle) : m Domains := do
  let general ← lookup Domain.general.name
  let database ← lookup Domain.database.name
  let query ← lookup Domain.query.name
  let sync ← lookup Domain.sync.name
  let websocket ← lookup Domain.websocket.name
  return ⟨general, database, query, sync, websocket⟩

def tagOf (ds : Domains) (h : Handle) : String :=
  if h.isNull then unknownTag
  else if h = ds.general then Domain.general.tag
  else if h = ds.database then Domain.database.tag
  else if h = ds.query then Domain.query.tag
  else if h = ds.sync then Domain.sync.tag
  else if h = ds.websocket then Domain.websocket.tag
  else unknownTag

theorem tagOf_eq_find? (ds : Domains) {h : Handle} (hn : h.isNull = false) :
    ds.tagOf h = ((Domain.all.find? fun d => decide (h = ds.get d)).map Domain.tag).getD unknownTag := by
  simp only [tagOf, hn, Bool.false_eq_true, if_false, Domain.all, List.find?, get]
  repeat' split
  all_goals simp_all

end Domains

end Switchboard
