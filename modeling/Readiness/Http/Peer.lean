import Readiness.Json.Display

/-!
This module contains the other end of a connection as access records name it: `host:port`, with a host that
holds a colon in brackets.
-/

namespace Readiness
namespace Http

/-- What the server knows of the other end. -/
inductive Peer where
  | unknown
  /-- A host without a port. -/
  | incomplete
  /-- What stands for a host, as a rule a text, and what stands for its port. -/
  | address (host port : Json)
deriving Repr

inductive PeerError where
  /-- The peer has a host but no port. -/
  | missingPort
  /-- The host is a single value that is no text. -/
  | scalarHost (kind : String)
deriving DecidableEq, Repr

def PeerError.message : PeerError → String
  | missingPort => "list index out of range"
  | scalarHost kind => "argument of type '" ++ kind ++ "' is not iterable"

namespace Peer

/-- Whether a colon occurs in a host: in its text, among its items or among its keys. -/
def hasColon : Json → Except PeerError Bool
  | .str s => return s.contains ':'
  | .arr items => return items.any fun j => j.str?.any (· = ":")
  | .obj fields => return fields.any (·.1 = ":")
  | j => throw (.scalarHost j.kindName)

def text : Peer → Except PeerError String
  | unknown => return ""
  | incomplete => throw .missingPort
  | address host port => do
    let name := host.displayBare
    let name := if ← hasColon host then '[' :: name ++ [']'] else name
    return String.ofList (name ++ ':' :: port.displayBare)

end Peer

end Http
end Readiness
