/-!
# Schemes

The well-known schemes, under which a URL always has a host or is a file. Their default ports are
never written.
-/
namespace SmokeProbe.Url

/-- How a URL is read under a scheme. -/
inductive SchemeKind where
  | network
  | file
  | other
deriving DecidableEq, Repr

def SchemeKind.of (scheme : String) : SchemeKind :=
  if ["http", "https", "ws", "wss", "ftp"].contains scheme then .network
  else if scheme = "file" then .file
  else .other

/-- Whether backslashes separate like slashes. -/
def SchemeKind.isSpecial (kind : SchemeKind) : Bool := kind != .other

def defaultPort? (scheme : String) : Option UInt16 :=
  if scheme = "http" ∨ scheme = "ws" then some 80
  else if scheme = "https" ∨ scheme = "wss" then some 443
  else if scheme = "ftp" then some 21
  else none

end SmokeProbe.Url
