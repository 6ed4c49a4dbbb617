import SmokeProbe.Text.Base64
import SmokeProbe.Url.Parser

/-!
# Requests

A request asks for a URL or posts a JSON text to it. User information in the URL becomes an
authorization header and leaves the URL, unless it does not decode to text.
-/
namespace SmokeProbe.Http

inductive Verb where
  | get
  | post (body : String)
deriving DecidableEq, Repr

structure Request where
  verb : Verb
  url : Url
  authorization : Option String
  referer : Option Url
deriving DecidableEq, Repr

/-- A user name and a password, decoded. -/
structure Credentials where
  username : List Char
  password : Option (List Char)
deriving DecidableEq, Repr

namespace Credentials

def decoded? (s : String) : Option (List Char) := Text.Utf8.decode? (Url.Percent.decode s.toList)

/-- The credentials in a URL. A password that does not decode is none. -/
def ofUrl? (u : Url) : Option Credentials := do
  let username ← decoded? u.username
  let password := u.password.bind decoded?
  if username.isEmpty && password.isNone then none else pure ⟨username, password⟩

/-- The value of an authorization header. -/
def basic (c : Credentials) : String :=
  let pair := c.username ++ ':' :: c.password.getD []
  String.ofList ("Basic ".toList ++ Text.Base64.encode (Text.Utf8.encode pair))

end Credentials

namespace Request

/-- The request that posts a text to a URL. -/
def post (u : Url) (body : String) : Request :=
  let credentials := Credentials.ofUrl? u
  let target := if credentials.isSome then u.withoutUserinfo else u
  { verb := .post body
    url := target.withoutFragment
    authorization := credentials.map Credentials.basic
    referer := none }

def method (r : Request) : String :=
  match r.verb with
  | .get => "GET"
  | .post _ => "POST"

def body (r : Request) : String :=
  match r.verb with
  | .get => ""
  | .post body => body

/-- The headers of a posted text. -/
def bodyHeaders : Verb → List (String × String)
  | .get => []
  | .post body =>
    [("content-length", String.ofList (Text.decimal (Text.Utf8.bytes body).length)),
      ("content-type", "application/json")]

/-- All headers, sorted by name. -/
def headers (r : Request) : List (String × String) :=
  [("accept", "*/*")] ++ r.authorization.toList.map (Prod.mk "authorization") ++
    bodyHeaders r.verb ++ [("host", String.ofList r.url.authority)] ++
    r.referer.toList.map fun u => ("referer", u.text)

/-- Whether two URLs are on one server, by host and port. -/
def sameServer (u v : Url) : Bool := u.host == v.host && u.effectivePort == v.effectivePort

/-- The request for the next URL of a chain. Only a redirect that keeps the verb posts again, and
credentials do not go to another server. -/
def following (r : Request) (next : Url) (keepsVerb : Bool) : Request :=
  { verb := if keepsVerb then r.verb else .get
    url := next
    authorization := if sameServer r.url next then r.authorization else none
    referer := some r.url.withoutUserinfo }

end Request

/-- Characters of a host that a request line cannot carry. -/
def isUnsendable (c : Char) : Bool := ['\x22', '\x60', '\x7b', '\x7d'].contains c

/-- Longest URL that a request line can carry, in bytes. -/
def maxTarget : Nat := 65534

/-- Whether a URL can be the target of a request. -/
def isSendable (u : Url) : Bool :=
  match u.host with
  | none => false
  | some h =>
    !h.text.isEmpty && !h.text.any isUnsendable && (Text.Utf8.bytes u.text).length ≤ maxTarget

end SmokeProbe.Http
