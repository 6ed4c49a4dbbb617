import SmokeProbe.Proofs.OneLineUrls
import SmokeProbe.Proofs.SendHops

/-!
# Failures on one line

What a failed exchange is described with are fixed texts and one URL: that of its start, that of a
request, or that of a redirect which is not followed. All of them are read from texts of the
configuration or of a peer, and no URL that is read has a line feed. So the description of a failed
exchange never breaks the line it is written on.
-/
namespace SmokeProbe

namespace Http

/-- Neither the message of a failure nor one of its causes has a line feed. -/
structure Failure.IsOneLine (f : Failure) : Prop where
  message : '\n' ∉ f.message.toList
  causes : ∀ c ∈ f.causes, '\n' ∉ c.toList

theorem HeadFault.message_oneLine (fault : HeadFault) : '\n' ∉ fault.message.toList := by
  cases fault <;> decide

theorem BodyFault.message_oneLine (fault : BodyFault) : '\n' ∉ fault.message.toList := by
  cases fault with
  | badTrailer fault => cases fault <;> decide
  | _ => decide

namespace Failure

/-- A URL in a message is in brackets behind a fixed text. -/
theorem quoted_oneLine {front : String} (hfront : '\n' ∉ front.toList) {u : Url}
    (hu : u.IsOneLine) : '\n' ∉ (front ++ u.text ++ ")").toList := by
  simp [hfront, hu.text]

theorem sending_oneLine {u : Url} (hu : u.IsOneLine) {failure : SendFailure}
    (h : ∀ c ∈ failure.causes, '\n' ∉ c.toList) : (sending u failure).IsOneLine :=
  ⟨quoted_oneLine (by decide) hu, h⟩

theorem reading_oneLine {u : Url} (hu : u.IsOneLine) (fault : HeadFault) :
    (sending u (.reading fault)).IsOneLine := by
  apply sending_oneLine hu
  simp [SendFailure.causes, fault.message_oneLine]

theorem redirecting_oneLine {u : Url} (hu : u.IsOneLine) : (redirecting u).IsOneLine :=
  ⟨quoted_oneLine (by decide) hu, by simp [causes]⟩

theorem decoding_oneLine (fault : BodyFault) : (decoding fault).IsOneLine where
  message := show '\n' ∉ "error decoding response body".toList by decide
  causes := by simp [causes, fault.message_oneLine]

theorem schemeNotAllowed_oneLine {u : Url} (hu : u.IsOneLine) :
    (schemeNotAllowed u).IsOneLine :=
  ⟨quoted_oneLine (by decide) hu, by simp [causes]⟩

theorem unsendable_oneLine {u : Url} (hu : u.IsOneLine) : (unsendable u).IsOneLine :=
  ⟨quoted_oneLine (by decide) hu, by simp [causes]⟩

end Failure

/-- A redirect leads to a URL on one line. -/
theorem target?_oneLine {r : Request} (hr : r.url.IsOneLine) {response : Response} {next : Url}
    (h : target? r response = some next) : next.IsOneLine := by
  obtain ⟨-, location, u, -, hjoin, -, rfl⟩ := target?_eq_some.mp h
  exact (Url.join_oneLine hr hjoin).withoutFragment.withoutUserinfo

theorem Exchange.origin_oneLine {u : Url} (hu : u.IsOneLine) : (origin u).IsOneLine := by
  unfold origin
  split
  · exact hu.withoutUserinfo
  · exact hu

variable [Text.OtherCharsets]

theorem outcome_oneLine {response : Response} {f : Failure} (h : outcome response = .error f) :
    f.IsOneLine := by
  unfold outcome at h
  split at h
  · cases h
  · cases h
    exact Failure.decoding_oneLine _

namespace Exchange

/-- Every URL of a chain of redirects is on one line, so the failure that ends it is. -/
theorem run_oneLine {first : Url} (hfirst : first.IsOneLine) (n : Nat) {r : Request}
    (hr : r.url.IsOneLine) (found : List Reply) {f : Failure}
    (h : (run first n r found).result = .error f) : f.IsOneLine := by
  fun_induction run first n r found
  case case1 =>
    cases h
    exact Failure.sending_oneLine hfirst (by decide)
  case case2 =>
    cases h
    exact Failure.sending_oneLine hfirst (by decide)
  case case3 fault _ =>
    cases h
    exact Failure.reading_oneLine hfirst fault
  case case4 => exact outcome_oneLine h
  case case5 =>
    cases h
    exact Failure.redirecting_oneLine hr
  case case6 ht _ rest ih => exact ih (target?_oneLine hr ht) h
  case case7 ht _ =>
    cases h
    exact Failure.schemeNotAllowed_oneLine (target?_oneLine hr ht)

theorem post_oneLine {u : Url} (hu : u.IsOneLine) {body : String} {found : List Reply}
    {f : Failure} (h : (post u body found).result = .error f) : f.IsOneLine := by
  have hrequest : (Request.post u body).url.IsOneLine := (origin_oneLine hu).withoutFragment
  rw [post_eq] at h
  split at h
  · exact run_oneLine (origin_oneLine hu) _ hrequest found h
  · cases h
    exact Failure.unsendable_oneLine (origin_oneLine hu)

end Exchange

end Http

namespace ProbeError

theorem withCauses_oneLine {message : String} {causes : List String}
    (hmessage : '\n' ∉ message.toList) (hcauses : ∀ c ∈ causes, '\n' ∉ c.toList) :
    '\n' ∉ (withCauses message causes).toList := by
  unfold withCauses
  induction causes generalizing message with
  | nil => exact hmessage
  | cons cause causes ih =>
    obtain ⟨hcause, hmore⟩ := List.forall_mem_cons.mp hcauses
    have hstep : '\n' ∉ (appendCause message cause).toList := by
      unfold appendCause
      split
      · exact hmessage
      · simp [hmessage, hcause]
    exact ih hstep hmore

theorem describe_oneLine {f : Http.Failure} (h : f.IsOneLine) :
    '\n' ∉ (transport f).describe.toList :=
  withCauses_oneLine h.message h.causes

end ProbeError

/-- No description of a failed exchange has a line feed in it, whatever the peer answers. -/
theorem Prober.describe_oneLine [Text.OtherCharsets] {c : Config} {p : Prober}
    (hp : ofConfig c = .ok p) {op : Operation} {payload : Payload} {found : List Http.Reply} {f : Http.Failure}
    (h : (p.send op payload found).1 = .error (.transport f)) :
    '\n' ∉ (ProbeError.transport f).describe.toList := by
  have hendpoint : (p.endpoint op).IsOneLine :=
    (endpoint_canonical (Config.resolve_canonical (resolve_of_ofConfig hp)).1 op).oneLine
  apply ProbeError.describe_oneLine
  cases hencode : payload.encode with
  | error e =>
    rw [p.send_of_error op found hencode] at h
    cases h
  | ok body =>
    rw [p.send_of_ok op found hencode] at h
    exact Http.Exchange.post_oneLine hendpoint (sentResult_eq_transport.mp h)

end SmokeProbe
