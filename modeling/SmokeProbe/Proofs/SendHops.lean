import SmokeProbe.Probe.Session
import SmokeProbe.Proofs.ExchangeHops
import SmokeProbe.Proofs.RequestHeaders
import SmokeProbe.Proofs.Userinfo

/-!
# The sends of a prober

A send either fails before anything happens, because its payload has no encoding, or is one exchange
with the endpoint of its operation. The endpoint has the base URL's scheme, user information and
server; only its path is its own.
-/
namespace SmokeProbe

theorem Http.Exchange.origin_eq {u : Url} (h : u.TextUserinfo) : origin u = u.withoutUserinfo :=
  Http.Request.post_target h

namespace Prober
variable (p : Prober) (op : Operation)

@[simp] theorem endpoint_scheme : (p.endpoint op).scheme = p.baseUrl.scheme := rfl

theorem endpoint_textUserinfo (h : p.baseUrl.TextUserinfo) : (p.endpoint op).TextUserinfo :=
  ⟨h.username, h.password⟩

/-- The result of a send whose exchange has a result. -/
def sentResult : Except Http.Failure Http.Outcome → Except ProbeError Http.Outcome
  | .ok outcome => .ok outcome
  | .error failure => .error (.transport failure)

theorem sentResult_eq_ok {result : Except Http.Failure Http.Outcome} {outcome : Http.Outcome} :
    sentResult result = .ok outcome ↔ result = .ok outcome := by
  cases result <;> simp [sentResult]

theorem sentResult_eq_transport {result : Except Http.Failure Http.Outcome}
    {failure : Http.Failure} :
    sentResult result = .error (.transport failure) ↔ result = .error failure := by
  cases result <;> simp [sentResult]

variable [Text.OtherCharsets] {payload : Payload} (found : List Http.Reply)

theorem send_of_error {e : Json.Error} (h : payload.encode = .error e) :
    p.send op payload found = (.error (.encoding e), .idle found) := by
  unfold send
  rw [h]

theorem send_of_ok {body : String} (h : payload.encode = .ok body) :
    p.send op payload found =
      (sentResult (Http.Exchange.post (p.endpoint op) body found).result,
        { requests := (Http.Exchange.post (p.endpoint op) body found).requests
          log := [.sending (p.endpoint op) (Text.Utf8.bytes body).length]
          left := (Http.Exchange.post (p.endpoint op) body found).left }) := by
  unfold send
  rw [h]
  rfl

/-- The first request of a send posts the encoding of its payload to the endpoint. -/
theorem send_first {body : String} (h : payload.encode = .ok body) :
    ∀ q ∈ (p.send op payload found).2.requests.head?,
      q = Http.Request.post (p.endpoint op) body := by
  have ho := Http.Exchange.post_orderly (p.endpoint op) body found
  rw [p.send_of_ok op found h, ← ho.requests_eq, List.head?_map]
  intro q hq
  obtain ⟨hop, hhop, rfl⟩ := Option.map_eq_some_iff.mp hq
  exact ho.head hop hhop

theorem send_posts {body : String} (h : payload.encode = .ok body) :
    ∀ q ∈ (p.send op payload found).2.requests.head?, q.Posts body := by
  intro q hq
  rw [p.send_first op found h q hq]
  exact Http.Request.posts_of_verb rfl

/-- What was encoded is sent unless no peer answers, the client does not connect for want of TLS, or
the URL rules a request out. -/
theorem send_silent_iff {body : String} (h : payload.encode = .ok body) :
    (p.send op payload found).2.requests = [] ↔
      found = [] ∨ Http.canConnect p.baseUrl.scheme = false ∨
        Http.isSendable (Http.Exchange.origin (p.endpoint op)) = false := by
  rw [p.send_of_ok op found h, Http.Exchange.post_requests_eq_nil, endpoint_scheme]

end Prober

end SmokeProbe
