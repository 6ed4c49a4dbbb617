import SmokeProbe.Probe.Error
import SmokeProbe.Text.Blank

/-!
# Configuration

Where the probed interface lives: a host and a port, or a base URL that overrides both. Arguments
are read from left to right; a flag takes the argument after it as its value, whatever that is, and
everything else is ignored.
-/
namespace SmokeProbe

structure Config where
  host : String := "localhost"
  port : UInt16 := 8081
  /-- Overrides host and port unless it is blank. -/
  baseUrl : Option String := none
deriving DecidableEq, Repr

/-- The flags that take a value. -/
inductive Flag where
  | host
  | port
  | baseUrl
deriving DecidableEq, Repr

namespace Flag

def text : Flag → String
  | .host => "--host"
  | .port => "--port"
  | .baseUrl => "--base-url"

def ofText? (s : String) : Option Flag := [host, port, baseUrl].find? fun f => f.text == s

end Flag

/-- A port number: digits after at most one plus sign. -/
def readPort? (s : String) : Option UInt16 :=
  let digits := match s.toList with
    | '+' :: ds => ds
    | ds => ds
  (Text.decimal? digits).bind fun n => if n ≤ 65535 then some (UInt16.ofNat n) else none

namespace Config

/-- Stores the value of a flag. Only a port can be refused. -/
def set (c : Config) (value : String) : Flag → Except ProbeError Config
  | .host => .ok { c with host := value }
  | .port =>
    match readPort? value with
    | some p => .ok { c with port := p }
    | none => .error (.invalidPort value)
  | .baseUrl => .ok { c with baseUrl := some value }

/-- Reads arguments, starting from a configuration. The first refused value ends the reading. -/
def scan : Config → List String → Except ProbeError Config
  | c, [] => .ok c
  | c, [_] => .ok c
  | c, a :: value :: rest =>
    match Flag.ofText? a with
    | some f =>
      match c.set value f with
      | .ok c => scan c rest
      | .error e => .error e
    | none => scan c (value :: rest)

/-- Reads the arguments of a program, of which the first is its name. -/
def ofArgs (args : List String) : Except ProbeError Config := scan {} (args.drop 1)

/-- Why there is no base URL. -/
inductive BaseUrlFault where
  | unreadable (text : String) (fault : Url.Fault)
  | unsupportedScheme (scheme : String)
  | hostMissing (text : String)
deriving DecidableEq, Repr

def BaseUrlFault.message : BaseUrlFault → String
  | .unreadable text fault => text ++ ": " ++ fault.message
  | .unsupportedScheme scheme => "unsupported scheme " ++ scheme
  | .hostMissing text => text ++ ": host is missing"

/-- The URL that host and port make, as text. -/
def hostUrlText (host : String) (port : UInt16) : String :=
  "http://" ++ host ++ ":" ++ String.ofList (Text.decimal port.toNat)

/-- The text of the base URL: the given one without surrounding blanks, or host and port. -/
def baseUrlText (c : Config) : String :=
  match c.baseUrl.map Text.trimBlanks with
  | some t => if t = "" then hostUrlText c.host c.port else t
  | none => hostUrlText c.host c.port

/-- The base URL that a text is. -/
def readBaseUrl (text : String) : Except BaseUrlFault Url :=
  match Url.parse text with
  | .error fault => .error (.unreadable text fault)
  | .ok u =>
    if !Http.isWebScheme u.scheme then .error (.unsupportedScheme u.scheme)
    else if u.host = none then .error (.hostMissing text)
    else .ok u

/-- The base URL of a configuration. -/
def resolve (c : Config) : Except ProbeError Url :=
  match readBaseUrl c.baseUrlText with
  | .ok u => .ok u
  | .error fault => .error (.invalidUrl fault.message)

end Config

end SmokeProbe
