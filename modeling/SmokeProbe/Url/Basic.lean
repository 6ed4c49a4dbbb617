import SmokeProbe.Url.Host
import SmokeProbe.Url.Path

/-!
# URLs

A URL by its parts, and its one written form. The parts are kept as they are written: encoded where
they have to be, without a default port.
-/
namespace SmokeProbe

structure Url where
  scheme : String
  username : String := ""
  password : Option String := none
  host : Option Url.Host := none
  port : Option UInt16 := none
  path : Url.Path
  query : Option String := none
  fragment : Option String := none
deriving DecidableEq, Repr

namespace Url

def kind (u : Url) : SchemeKind := .of u.scheme

/-- User name and password in front of an at sign, if there are any. -/
def userinfoText (u : Url) : List Char :=
  let password := match u.password with
    | some p => ':' :: p.toList
    | none => []
  if u.username = "" ∧ u.password = none then [] else u.username.toList ++ password ++ ['@']

def portText (u : Url) : List Char :=
  match u.port with
  | some p => ':' :: Text.decimal p.toNat
  | none => []

/-- The host, and the port unless it is the default one. -/
def authority (u : Url) : List Char :=
  match u.host with
  | some h => h.text ++ u.portText
  | none => []

/-- An optional part behind its delimiter. -/
def after (d : Char) : Option String → List Char
  | some s => d :: s.toList
  | none => []

/-- The path; one that begins with an empty segment must not be mistaken for a host. -/
def pathText (u : Url) : List Char :=
  match u.host, u.path with
  | none, .segments ("" :: _ :: _) => '/' :: '.' :: u.path.text
  | _, p => p.text

def chars (u : Url) : List Char :=
  let host := match u.host with
    | some _ => '/' :: '/' :: u.userinfoText ++ u.authority
    | none => []
  u.scheme.toList ++ ':' :: host ++ u.pathText ++ after '?' u.query ++ after '#' u.fragment

/-- The written form. -/
def text (u : Url) : String := String.ofList u.chars

/-- The port that is meant, written or not. -/
def effectivePort (u : Url) : Option UInt16 := u.port.or (defaultPort? u.scheme)

def withoutUserinfo (u : Url) : Url := { u with username := "", password := none }

def withoutFragment (u : Url) : Url := { u with fragment := none }

/-- The path is replaced by what a text is read as. -/
def withPath (u : Url) (s : List Char) : Url := { u with path := .ofText u.kind s }

end Url

end SmokeProbe
