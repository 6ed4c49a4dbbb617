import SmokeProbe.Http.Body
import SmokeProbe.Http.Interim
import SmokeProbe.Http.MediaType
import SmokeProbe.Text.Utf8

/-!
# Replies

What a peer does with a request: it answers completely, it closes the connection, or it sends any
bytes and closes. The response that a reply amounts to has a status, headers, and a body or the
reason why the body cannot be read.
-/
namespace SmokeProbe.Http

inductive Reply where
  | complete (status : Nat) (headers : List (String × String)) (declared : Option Nat)
      (body : List UInt8)
  | close
  | raw (bytes : List UInt8)
deriving DecidableEq, Repr

structure Response where
  status : Nat
  headers : List Header
  body : Except BodyFault (List UInt8)

namespace Reply

/-- A header as it arrives. -/
def header (h : String × String) : Header :=
  ⟨(Text.Utf8.bytes h.1).map Head.toLower, Text.stripBoth Head.isBlank (Text.Utf8.bytes h.2)⟩

/-- The framing of a complete answer: a declared length counts even if the body is shorter. -/
def framing (status : Nat) (declared : Option Nat) (body : List UInt8) : Framing :=
  if Framing.isBodiless status then .empty else .length (declared.getD body.length)

/-- The response that bytes make, or why there is none. -/
def ofBytes (bytes : List UInt8) : Except HeadFault Response := do
  let (head, rest) ← Head.final bytes
  let framing ← Framing.ofHead head
  pure ⟨head.status, head.headers, framing.read rest⟩

/-- The response, or why there is none. Behind an interim head there is no body: the bytes that were
meant to be one are read as those of the response. -/
def response : Reply → Except HeadFault Response
  | .complete status headers declared body =>
    if Head.isInterim status then ofBytes body
    else .ok ⟨status, headers.map header, (framing status declared body).read body⟩
  | .close => .error .closed
  | .raw bytes => ofBytes bytes

end Reply

namespace Response

/-- The value of the first header of a name. -/
def header? (r : Response) (name : String) : Option (List UInt8) :=
  (Head.valuesOf r.headers name).head?

/-- The charset that the headers declare. -/
def charset (r : Response) : Text.Charset :=
  (((r.header? "content-type").bind Framing.visible?).map MediaType.charset).getD .utf8

/-- The body as text. -/
def text [Text.OtherCharsets] (r : Response) : Except BodyFault String :=
  r.body.map fun bs => String.ofList (r.charset.decode bs)

/-- The statuses of redirects that are followed. -/
def isRedirect (r : Response) : Bool := [301, 302, 303, 307, 308].contains r.status

/-- Whether following the redirect repeats the request as it was. -/
def keepsVerb (r : Response) : Bool := r.status == 307 || r.status == 308

/-- The text of the location header. -/
def location? (r : Response) : Option String :=
  ((r.header? "location").bind Text.Utf8.decode?).map String.ofList

end Response

end SmokeProbe.Http
