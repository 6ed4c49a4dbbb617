import SmokeProbe.Text.Blank
import SmokeProbe.Url.Basic

/-!
# Reading URLs

A text is read from the outside in: what surrounds it is dropped, the fragment and the query are cut
off behind the first of their delimiters, the scheme in front decides how the rest falls into
authority and path, and the authority falls into user information, host and port. With a base, a
text without a scheme of its own is completed from the base.
-/
namespace SmokeProbe.Url

/-- Characters that may surround a URL. -/
def isSurrounding (c : Char) : Bool := c.toNat ≤ 0x20

/-- Characters that may stand anywhere in a URL without meaning anything. -/
def isLineBreakOrTab (c : Char) : Bool := c == '\t' || c == '\n' || c == '\r'

/-- The text that counts. -/
def cleaned (s : List Char) : List Char :=
  (Text.stripBoth isSurrounding s).filter fun c => !isLineBreakOrTab c

/-- A text cut into the part that names a resource, the query and the fragment. -/
structure Outline where
  main : List Char
  query : Option (List Char)
  fragment : Option (List Char)
deriving DecidableEq, Repr

def Outline.of (s : List Char) : Outline :=
  let (front, fragment) := Text.cut (· == '#') s
  let (main, query) := Text.cut (· == '?') front
  ⟨main, query, fragment⟩

def encodeQuery (kind : SchemeKind) (s : List Char) : String :=
  let set := if kind.isSpecial then Percent.inSpecialQuery else Percent.inQuery
  String.ofList (Percent.encode set s)

def encodeFragment (s : List Char) : String :=
  String.ofList (Percent.encode Percent.inFragment s)

/-- Puts query and fragment of an outline behind a path. -/
def Outline.dress (o : Outline) (u : Url) : Url :=
  { u with
    query := o.query.map (encodeQuery u.kind)
    fragment := o.fragment.map encodeFragment }

def isSchemeChar (c : Char) : Bool :=
  c.isAlpha || Text.isDigit c || c == '+' || c == '-' || c == '.'

/-- The scheme in front of a colon, in lower case, and what follows the colon. -/
def scheme? (s : List Char) : Option (String × List Char) :=
  match Text.cut (· == ':') s with
  | (c :: name, some rest) =>
    if c.isAlpha && name.all isSchemeChar then
      some (String.ofList ((c :: name).map Char.toLower), rest)
    else none
  | _ => none

def encodeUserinfo (s : List Char) : String := String.ofList (Percent.encode Percent.inUserinfo s)

/-- User name and password: cut at the first colon. An empty password is none. -/
def userinfo (s : List Char) : String × Option String :=
  match Text.cut (· == ':') s with
  | (name, some (c :: password)) => (encodeUserinfo name, some (encodeUserinfo (c :: password)))
  | (name, _) => (encodeUserinfo name, none)

/-- Cuts at the first colon outside brackets. -/
def cutPort : Bool → List Char → List Char × Option (List Char)
  | _, [] => ([], none)
  | inside, c :: s =>
    if c = ':' ∧ inside = false then ([], some s)
    else
      let r := cutPort (if c = '[' then true else if c = ']' then false else inside) s
      (c :: r.1, r.2)

def maxPort : Nat := 65535

/-- The port that digits write; no digits are no port, and the default port is none. -/
def readPort (scheme : String) (s : List Char) : Except Fault (Option UInt16) :=
  if s.isEmpty then .ok none
  else match Text.decimal? s with
    | none => .error .badPort
    | some n =>
      if maxPort < n then .error .badPort
      else
        let p := UInt16.ofNat n
        .ok (if defaultPort? scheme = some p then none else some p)

/-- An authority: user name, password, host and port. -/
structure Authority where
  username : String
  password : Option String
  host : Host
  port : Option UInt16
deriving DecidableEq, Repr

/-- Host and port of a network URL. -/
def hostAndPort (scheme : String) (s : List Char) : Except Fault (Host × Option UInt16) := do
  let (name, digits) := cutPort false s
  if name.isEmpty then .error .emptyHost
  else
    let h ← Host.parse name
    let p ← readPort scheme (digits.getD [])
    pure (h, p)

/-- The authority of a network URL. -/
def networkAuthority (scheme : String) (s : List Char) : Except Fault Authority := do
  let (info, place) := (Text.cutLast? (· == '@') s).getD ([], s)
  let (h, p) ← hostAndPort scheme place
  let (username, password) := userinfo info
  pure ⟨username, password, h, p⟩

/-- A URL under a network scheme from its authority on. -/
def networkUrl (scheme : String) (o : Outline) (s : List Char) : Except Fault Url := do
  let front := s.takeWhile fun c => !Path.isSlash .network c
  let rest := s.dropWhile fun c => !Path.isSlash .network c
  let a ← networkAuthority scheme front
  pure (o.dress
    { scheme := scheme, username := a.username, password := a.password, host := some a.host
      port := a.port, path := .ofText .network rest })

/-- A file URL with a host and a path. A path that begins with a drive has no host, and no path
begins with an empty segment if there is another one. -/
def filePlace (o : Outline) (h : Host) (p : List Char) : Url :=
  let raw := Path.rawSegments .file p
  let segments := (Path.below .file [] raw).dropWhile List.isEmpty
  o.dress
    { scheme := "file"
      host := some (if (raw.head?.map Path.isDrive).getD false then .name "" else h)
      path := .segments ((if segments.isEmpty then [[]] else segments).map String.ofList) }

/-- A file URL. Its host may be left out, and `localhost` is none. -/
def fileUrl (o : Outline) (s : List Char) : Except Fault Url :=
  match s with
  | a :: b :: rest =>
    if Path.isSlash .file a && Path.isSlash .file b then
      let name := rest.takeWhile fun c => !Path.isSlash .file c
      if Path.isDrive name || name.isEmpty then .ok (filePlace o (.name "") rest)
      else do
        let h ← Host.parse name
        pure (filePlace o (if h = .name "localhost" then .name "" else h)
          (rest.dropWhile fun c => !Path.isSlash .file c))
    else .ok (filePlace o (.name "") s)
  | _ => .ok (filePlace o (.name "") s)

/-- The authority under any other scheme; its host may be empty if nothing else is there. Behind the
digits of a port a backslash begins the path. -/
def otherAuthority (o : Outline) (front rest : List Char) :
    Except Fault (Authority × List Char) := do
  let (info, place) := (Text.cutLast? (· == '@') front).getD ([], front)
  let (name, digits) := cutPort false place
  let h ← Host.parseOther name
  let (username, password) := userinfo info
  let more := !rest.isEmpty || o.query.isSome || o.fragment.isSome
  if name.isEmpty && (digits.isSome || username ≠ "" || password.isSome ||
      (front.head? == some '@' && more)) then .error .emptyHost
  else
    let (digits, path) := match Text.cut (· == '\x5c') (digits.getD []) with
      | (ds, some s) => (ds, '\x5c' :: s ++ rest)
      | (ds, none) => (ds, rest)
    let p ← readPort "" digits
    pure (⟨username, password, h, p⟩, path)

/-- A URL under any other scheme. -/
def otherUrl (scheme : String) (o : Outline) (s : List Char) : Except Fault Url :=
  match s with
  | '/' :: '/' :: s => do
    let (a, path) ← otherAuthority o (s.takeWhile (· != '/')) (s.dropWhile (· != '/'))
    pure (o.dress
      { scheme := scheme, username := a.username, password := a.password, host := some a.host
        port := a.port, path := .ofText .other path })
  | '/' :: s => .ok (o.dress { scheme := scheme, path := .ofText .other ('/' :: s) })
  | s => .ok (o.dress
      { scheme := scheme, path := .rootless (String.ofList (Percent.encode Percent.control s)) })

/-- A URL from behind the colon of its scheme on. -/
def absolute (scheme : String) (o : Outline) (s : List Char) : Except Fault Url :=
  match SchemeKind.of scheme with
  | .network => networkUrl scheme o (s.dropWhile (Path.isSlash .network))
  | .file => fileUrl o s
  | .other => otherUrl scheme o s

/-- A text without a scheme, completed from a base under a network scheme. Two slashes begin an
authority, one slash a path from the root, anything else a path beside the base's last segment. -/
def relative (base : Url) (o : Outline) : Except Fault Url :=
  let slashes := o.main.takeWhile (Path.isSlash .network)
  match o.main with
  | [] =>
    if o.query.isSome then .ok (o.dress base)
    else .ok { base with fragment := o.fragment.map encodeFragment }
  | '/' :: '/' :: rest => networkUrl base.scheme o rest
  | c :: rest =>
    if 2 ≤ slashes.length then
      networkUrl base.scheme o (o.main.dropWhile (Path.isSlash .network))
    else if Path.isSlash .network c then
      .ok (o.dress { base with path := .ofText .network o.main })
    else
      .ok (o.dress { base with path := .ofTextBelow .network base.path.parent (c :: rest) })

/-- The URL that a text is, on its own or completed from a base under a network scheme. -/
def parseWith (base : Option Url) (text : String) : Except Fault Url :=
  let o := Outline.of (cleaned text.toList)
  match scheme? o.main, base with
  | some (scheme, rest), some b =>
    if scheme = b.scheme ∧ (rest.takeWhile (Path.isSlash .network)).length < 2 then
      relative b { o with main := rest }
    else absolute scheme o rest
  | some (scheme, rest), none => absolute scheme o rest
  | none, some b => relative b o
  | none, none => .error .noBase

/-- The URL that a text is on its own. -/
def parse (text : String) : Except Fault Url := parseWith none text

/-- The URL that a reference means when it is found at a URL under a network scheme. -/
def join (base : Url) (reference : String) : Except Fault Url := parseWith (some base) reference

end SmokeProbe.Url
