import SmokeProbe.Http.Reply
import SmokeProbe.Http.Request

/-!
# Exchanges

One request with all that follows from it: replies are taken in order, redirects are followed up to
a limit, and the exchange ends with the text of a response or with the reason for its failure. It
reports the requests that were answered and the replies that it left.

The client is one without TLS: a request under `https` is never sent, and an exchange that is
redirected there fails. What a client with TLS sends is not covered. Neither are host names that do
not resolve, timeouts and connections that are used again: each request meets the next reply on a
connection of its own, and no peer is reached when none is left.
-/
namespace SmokeProbe.Http

/-- Why a request got no response. -/
inductive SendFailure where
  | connecting (causes : List String)
  | reading (fault : HeadFault)
deriving DecidableEq, Repr

/-- No peer is left to connect to. -/
def SendFailure.unreachable : SendFailure :=
  .connecting ["tcp connect error", "Network is unreachable (os error 101)"]

/-- The connection would have to be encrypted, and the client has no TLS. -/
def SendFailure.notPlain : SendFailure := .connecting ["invalid URL, scheme is not http"]

def SendFailure.causes : SendFailure → List String
  | .connecting causes => "client error (Connect)" :: causes
  | .reading fault => ["client error (SendRequest)", fault.message]

/-- Why an exchange failed. -/
inductive Failure where
  | sending (url : Url) (failure : SendFailure)
  | redirecting (url : Url)
  | decoding (fault : BodyFault)
  | unreadableUrl (fault : Url.Fault)
  | schemeNotAllowed (url : Url)
  | unsendable (url : Url)
deriving DecidableEq, Repr

namespace Failure

/-- The message in front of all causes. -/
def message : Failure → String
  | .sending url _ => "error sending request for url (" ++ url.text ++ ")"
  | .redirecting url => "error following redirect for url (" ++ url.text ++ ")"
  | .decoding _ => "error decoding response body"
  | .unreadableUrl _ => "builder error"
  | .schemeNotAllowed url => "builder error for url (" ++ url.text ++ ")"
  | .unsendable url => "builder error for url (" ++ url.text ++ ")"

/-- The chain of causes, the outermost first. -/
def causes : Failure → List String
  | .sending _ failure => failure.causes
  | .redirecting _ => ["too many redirects"]
  | .decoding fault => ["error reading a body from connection", fault.message]
  | .unreadableUrl fault => [fault.message]
  | .schemeNotAllowed _ => ["URL scheme is not allowed"]
  | .unsendable _ => ["Parsed Url is not a valid Uri"]

end Failure

/-- A response that was read to its end. -/
structure Outcome where
  status : Nat
  body : String
deriving DecidableEq, Repr

structure Exchange where
  result : Except Failure Outcome
  requests : List Request
  left : List Reply

/-- How many redirects are followed. -/
def maxRedirects : Nat := 10

/-- Where a response redirects a request, if it does so to a usable URL. Its location is completed
by the rules for URLs: a character that cannot stand in one, such as a blank, is escaped, and the
redirect is followed. -/
def target? (r : Request) (response : Response) : Option Url :=
  if response.isRedirect then
    (response.location?.bind fun l => (Url.join r.url l).toOption).bind fun u =>
      if isSendable u then some u.withoutFragment.withoutUserinfo else none
  else none

def outcome [Text.OtherCharsets] (response : Response) : Except Failure Outcome :=
  match response.text with
  | .ok body => .ok ⟨response.status, body⟩
  | .error fault => .error (.decoding fault)

/-- Whether requests can be made under a scheme at all. -/
def isWebScheme (scheme : String) : Bool := scheme == "http" || scheme == "https"

/-- Whether the client connects under a scheme. It has no TLS, so a request under `https` fails
before anything is sent. -/
def canConnect (scheme : String) : Bool := scheme == "http"

namespace Exchange
variable [Text.OtherCharsets]

/-- Sends a request and follows at most `redirects` redirects. Failures to send are reported for
the URL of the exchange, `first`. Under a scheme that needs TLS nothing is sent. -/
def run (first : Url) : Nat → Request → List Reply → Exchange
  | redirects, request, replies =>
    if canConnect request.url.scheme = false then ⟨.error (.sending first .notPlain), [], replies⟩
    else match replies with
    | [] => ⟨.error (.sending first .unreachable), [], []⟩
    | reply :: left =>
      match reply.response with
      | .error fault => ⟨.error (.sending first (.reading fault)), [request], left⟩
      | .ok response =>
        match target? request response, redirects with
        | none, _ => ⟨outcome response, [request], left⟩
        | some _, 0 => ⟨.error (.redirecting request.url), [request], left⟩
        | some next, redirects + 1 =>
          if isWebScheme next.scheme then
            let rest := run first redirects (request.following next response.keepsVerb) left
            { rest with requests := request :: rest.requests }
          else ⟨.error (.schemeNotAllowed next), [request], left⟩

/-- Posts a text to a URL. -/
def post (u : Url) (body : String) (replies : List Reply) : Exchange :=
  let request := Request.post u body
  let target := if request.authorization.isSome then u.withoutUserinfo else u
  if isSendable target then run target maxRedirects request replies
  else ⟨.error (.unsendable target), [], replies⟩

end Exchange

end SmokeProbe.Http
