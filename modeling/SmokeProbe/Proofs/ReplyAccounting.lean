import SmokeProbe.Proofs.InterruptedRun
import SmokeProbe.Proofs.SendHops

/-!
# Accounting for replies

All steps of a session draw on one list of replies. No reply is lost, used twice or taken out of
order: the requests of the whole session stand beside the replies that answered them, place by
place, and what is left is the rest of the list. Each send stops at the first reply that does not
lead on, and that reply alone decides its result.
-/
namespace SmokeProbe

namespace Http

/-- The cause that ends an exchange with too many redirects is the cause of nothing else. -/
theorem Failure.causes_eq_tooMany {f : Failure} :
    f.causes = ["too many redirects"] ↔ ∃ u, f = .redirecting u := by
  constructor
  · intro h
    cases f with
    | sending url failure => cases failure <;> simp [causes, SendFailure.causes] at h
    | redirecting url => exact ⟨url, rfl⟩
    | decoding fault => simp [causes] at h
    | unreadableUrl fault => cases fault <;> simp [causes, Url.Fault.message] at h
    | schemeNotAllowed url => simp [causes] at h
    | unsendable url => simp [causes] at h
  · rintro ⟨u, rfl⟩
    rfl

namespace Exchange.Orderly
variable [Text.OtherCharsets] {e : Exchange} {first : Url} {r : Request} {found : List Reply}
  (ho : e.Orderly first r found)
include ho

/-- A hop is redirected to the next one, or it is the last. -/
theorem redirects_or_last {i : Nat} (hi : i < (hops e.requests found).length) :
    (∃ next, (hops e.requests found)[i].Redirects next) ∨
      i + 1 = (hops e.requests found).length ∧
        (hops e.requests found)[i] ∈ (hops e.requests found).getLast? := by
  by_cases hlast : i + 1 < (hops e.requests found).length
  · exact .inl ⟨_, ho.chain.getElem i hlast⟩
  · right
    refine ⟨by omega, ?_⟩
    rw [List.getLast?_eq_getElem?, Option.mem_def, List.getElem?_eq_some_iff]
    exact ⟨by omega, by congr 1; omega⟩

/-- An exchange that sent anything has a last hop, which ended it. -/
theorem ends (hne : hops e.requests found ≠ []) :
    ∃ last ∈ (hops e.requests found).getLast?,
      Ending first (e.requests.length = maxRedirects + 1) e.left last e.result := by
  have hlast := List.getLast?_eq_some_getLast hne
  exact ⟨_, hlast, ho.ending _ hlast⟩

theorem stops {last : Hop} (hl : last ∈ (hops e.requests found).getLast?) {next : Request}
    (hr : last.Redirects next) :
    e.requests.length = maxRedirects + 1 ∨ e.left = [] ∨ canConnect next.url.scheme = false := by
  rcases (ho.ending last hl).of_redirects hr with ⟨hf, _⟩ | ⟨_, hstop⟩
  · exact .inl hf
  · exact .inr hstop

/-- The status of a result is that of the last reply. -/
theorem last_of_ok {made : Outcome} (h : e.result = .ok made) :
    ∃ last ∈ (hops e.requests found).getLast?, ∃ response,
      last.reply.response = .ok response ∧ response.status = made.status ∧
        ∀ next, ¬ last.Redirects next := by
  have hne : hops e.requests found ≠ [] := by
    intro hnil
    rcases ho.idle (ho.hops_eq_nil.mp hnil) with he | he | he <;> rw [h] at he <;> cases he
  obtain ⟨last, hlast, hend⟩ := ho.ends hne
  obtain ⟨response, hq, hmade, hn⟩ := hend.of_ok h
  exact ⟨last, hlast, response, hq, outcome_status hmade, hn⟩

/-- An exchange is redirected too often exactly if all replies that it may take redirect it. -/
theorem tooMany : (∃ u, e.result = .error (.redirecting u)) ↔
    (hops e.requests found).length = maxRedirects + 1 ∧
      ∀ h ∈ hops e.requests found, ∃ next, h.Redirects next := by
  constructor
  · rintro ⟨u, hu⟩
    have hne : hops e.requests found ≠ [] := by
      intro hnil
      rcases ho.idle (ho.hops_eq_nil.mp hnil) with he | he | he <;> rw [hu] at he <;> cases he
    obtain ⟨last, hlast, hend⟩ := ho.ends hne
    obtain ⟨hfull, hlastNext⟩ := hend.of_redirecting hu
    refine ⟨by rw [ho.hops_length, hfull], ?_⟩
    intro h hh
    obtain ⟨i, hi, rfl⟩ := List.mem_iff_getElem.mp hh
    rcases ho.redirects_or_last hi with hnext | ⟨_, hil⟩
    · exact hnext
    · rw [Option.mem_unique hil hlast]
      exact hlastNext
  · rintro ⟨hlen, hall⟩
    have hne : hops e.requests found ≠ [] := by
      intro hnil
      rw [hnil] at hlen
      cases hlen
    obtain ⟨last, hlast, hend⟩ := ho.ends hne
    obtain ⟨next, hr⟩ := hall last (List.mem_of_getLast? hlast)
    rw [ho.hops_length] at hlen
    rcases hend.of_redirects hr with ⟨_, hu⟩ | ⟨hf, _⟩
    · exact ⟨_, hu⟩
    · exact absurd hlen hf

/-- A reply without a readable head is the last one, and its fault is the result. -/
theorem unread {i : Nat} (hi : i < (hops e.requests found).length) {fault : HeadFault}
    (hq : (hops e.requests found)[i].reply.response = .error fault) :
    i + 1 = (hops e.requests found).length ∧
      e.result = .error (.sending first (.reading fault)) := by
  rcases ho.redirects_or_last hi with ⟨next, hr⟩ | ⟨hlast, hl⟩
  · obtain ⟨response, hq'⟩ := Hop.response_of_redirects hr
    rw [hq] at hq'
    cases hq'
  · exact ⟨hlast, (ho.ending _ hl).of_unread hq⟩

/-- A response that leads nowhere is the last one, and it alone makes the result. -/
theorem answered {i : Nat} (hi : i < (hops e.requests found).length) {response : Response}
    (hq : (hops e.requests found)[i].reply.response = .ok response)
    (hn : ∀ next, ¬ (hops e.requests found)[i].Redirects next) :
    i + 1 = (hops e.requests found).length ∧ e.result = outcome response := by
  rcases ho.redirects_or_last hi with ⟨next, hr⟩ | ⟨hlast, hl⟩
  · exact absurd hr (hn next)
  · exact ⟨hlast, (ho.ending _ hl).of_answered hq hn⟩

end Exchange.Orderly

/-- The hops are the requests in their order, on replies from the front of those that were found. -/
structure Took (chain : List Hop) (requests : List Request) (found left : List Reply) : Prop where
  requests_eq : chain.map Hop.request = requests
  replies_eq : chain.map Hop.reply ++ left = found

namespace Took
variable {chain more : List Hop} {requests others : List Request} {found left rest : List Reply}

theorem nothing : Took [] [] found found := ⟨rfl, rfl⟩

theorem append (h : Took chain requests found left) (k : Took more others left rest) :
    Took (chain ++ more) (requests ++ others) found rest := by
  refine ⟨?_, ?_⟩
  · rw [List.map_append, h.requests_eq, k.requests_eq]
  · rw [List.map_append, List.append_assoc, k.replies_eq, h.replies_eq]

theorem length (h : Took chain requests found left) : requests.length = chain.length := by
  rw [← h.requests_eq, List.length_map]

theorem left_eq (h : Took chain requests found left) : left = found.drop requests.length := by
  rw [← h.replies_eq, h.length, List.drop_left' (List.length_map _)]

theorem total (h : Took chain requests found left) :
    requests.length + left.length = found.length := by
  rw [← h.replies_eq, List.length_append, List.length_map, h.length]

theorem hops_eq (h : Took chain requests found left) : hops requests found = chain := by
  rw [← h.requests_eq, ← h.replies_eq]
  clear h
  induction chain with
  | nil => rfl
  | cons a chain ih => rw [List.map_cons, List.map_cons, List.cons_append, hops_cons, ih]

end Took

end Http

/-- A send of a session, with the replies that it finds. -/
structure Sending where
  op : Operation
  payload : Payload
  found : List Http.Reply

namespace Sending
variable [Text.OtherCharsets] (p : Prober) (s : Sending)

def result : Except ProbeError Http.Outcome := (p.send s.op s.payload s.found).1

def trace : Trace := (p.send s.op s.payload s.found).2

def hops : List Http.Hop := Http.hops (s.trace p).requests s.found

/-- What becomes of the replies that a send finds. -/
structure Accounted : Prop where
  took : Http.Took (s.hops p) (s.trace p).requests s.found (s.trace p).left
  atMost : (s.hops p).length ≤ 11
  /-- No request is made for want of an encoding, of a peer, of TLS, which the client does not have,
  or of a URL that a request line can carry. -/
  none_iff : s.hops p = [] ↔ (∃ e, s.payload.encode = .error e) ∨ s.found = [] ∨
    Http.canConnect p.baseUrl.scheme = false ∨
    Http.isSendable (Http.Exchange.origin (p.endpoint s.op)) = false
  followed : (s.hops p).IsChain fun a b => a.Redirects b.request
  stops : ∀ last ∈ (s.hops p).getLast?, ∀ next, last.Redirects next →
    (s.hops p).length = 11 ∨ (s.trace p).left = [] ∨ Http.canConnect next.url.scheme = false
  status : ∀ outcome, s.result p = .ok outcome → ∃ last ∈ (s.hops p).getLast?, ∃ response,
    last.reply.response = .ok response ∧ response.status = outcome.status ∧
      ∀ next, ¬ last.Redirects next
  tooMany : (∃ failure, s.result p = .error (.transport failure) ∧
      failure.causes = ["too many redirects"]) ↔
    (s.hops p).length = 11 ∧ ∀ h ∈ s.hops p, ∃ next, h.Redirects next
  unread : ∀ i (hi : i < (s.hops p).length) fault,
    (s.hops p)[i].reply.response = .error fault →
      i + 1 = (s.hops p).length ∧ s.result p = .error (.transport
        (.sending (Http.Exchange.origin (p.endpoint s.op)) (.reading fault)))
  undecoded : ∀ i (hi : i < (s.hops p).length) response fault,
    (s.hops p)[i].reply.response = .ok response → response.text = .error fault →
    (∀ next, ¬ (s.hops p)[i].Redirects next) →
      i + 1 = (s.hops p).length ∧ s.result p = .error (.transport (.decoding fault))

theorem accounted_of_error {e : Json.Error} (h : s.payload.encode = .error e) :
    s.Accounted p := by
  have hsend := p.send_of_error s.op s.found h
  have hresult : s.result p = .error (.encoding e) := congrArg Prod.fst hsend
  have htrace : s.trace p = .idle s.found := congrArg Prod.snd hsend
  have hhops : s.hops p = [] := by
    unfold hops
    rw [htrace]
    rfl
  constructor
  case took =>
    rw [hhops, htrace]
    exact .nothing
  case none_iff => simp [hhops, h]
  all_goals simp [hhops, hresult]

theorem accounted_of_ok {body : String} (h : s.payload.encode = .ok body) : s.Accounted p := by
  have hsend := p.send_of_ok s.op s.found h
  have ho := Http.Exchange.post_orderly (p.endpoint s.op) body s.found
  have hidle := Http.Exchange.post_requests_eq_nil (p.endpoint s.op) body s.found
  generalize Http.Exchange.post (p.endpoint s.op) body s.found = e at hsend ho hidle
  have hresult : s.result p = Prober.sentResult e.result := congrArg Prod.fst hsend
  have hrequests : (s.trace p).requests = e.requests := congrArg (fun r => r.2.requests) hsend
  have hleft : (s.trace p).left = e.left := congrArg (fun r => r.2.left) hsend
  have hhops : s.hops p = Http.hops e.requests s.found := congrArg (Http.hops · s.found) hrequests
  constructor
  case took =>
    rw [hhops, hrequests, hleft]
    exact ⟨ho.requests_eq, ho.replies_eq⟩
  case atMost =>
    rw [hhops, ho.hops_length]
    exact ho.length_le
  case none_iff =>
    rw [hhops, ho.hops_eq_nil, hidle, h]
    simp
  case followed =>
    rw [hhops]
    exact ho.chain
  case stops =>
    intro last hl next hr
    rw [hhops] at hl ⊢
    rw [ho.hops_length, hleft]
    exact ho.stops hl hr
  case status =>
    intro outcome hok
    rw [hhops]
    apply ho.last_of_ok
    rw [hresult] at hok
    exact Prober.sentResult_eq_ok.mp hok
  case tooMany =>
    rw [hhops, hresult]
    refine Iff.trans ?_ ho.tooMany
    constructor
    · rintro ⟨failure, hf, hc⟩
      obtain ⟨u, rfl⟩ := Http.Failure.causes_eq_tooMany.mp hc
      exact ⟨u, Prober.sentResult_eq_transport.mp hf⟩
    · rintro ⟨u, hu⟩
      exact ⟨_, Prober.sentResult_eq_transport.mpr hu, rfl⟩
  case unread =>
    intro i hi fault hq
    simp only [hhops] at hi hq ⊢
    obtain ⟨hlast, he⟩ := ho.unread hi hq
    rw [hresult, he]
    exact ⟨hlast, rfl⟩
  case undecoded =>
    intro i hi response fault hq ht hn
    simp only [hhops] at hi hq hn ⊢
    obtain ⟨hlast, he⟩ := ho.answered hi hq hn
    rw [hresult, he]
    unfold Http.outcome
    rw [ht]
    exact ⟨hlast, rfl⟩

/-- Every send accounts for its replies. -/
theorem accounted : s.Accounted p := by
  cases h : s.payload.encode with
  | error e => exact s.accounted_of_error p h
  | ok body => exact s.accounted_of_ok p h

end Sending

/-- A step that sends nothing at all: one that only asks for an endpoint, or one whose payload has
no encoding. -/
def Step.Silent : Step → Prop
  | .endpoint _ => True
  | .send _ payload => ∃ e, payload.encode = .error e
  | .probe _ payload _ => ∃ e, payload.encode = .error e
  | .runAll _ => False

namespace Prober
variable [Text.OtherCharsets]

/-- The sends of a step. The call of a run is sent only if the deploy was reported. -/
def sendsOf (p : Prober) (found : List Http.Reply) : Step → List Sending
  | .endpoint _ => []
  | .send op payload => [⟨op, payload, found⟩]
  | .probe op payload _ => [⟨op, payload, found⟩]
  | .runAll sink =>
    let deploy := p.probe .deploy Operation.deploy.samplePayload sink found
    let call := ⟨.call, Operation.call.samplePayload, deploy.trace.left⟩
    ⟨.deploy, Operation.deploy.samplePayload, found⟩ :: if deploy.result.isOk then [call] else []

/-- The sends of a session. -/
def sends (p : Prober) : List Http.Reply → List Step → List Sending
  | _, [] => []
  | found, s :: more => p.sendsOf found s ++ p.sends (p.step found s).trace.left more

/-- The replies that are left after a session. -/
def leftBy (found : List Http.Reply) : List StepReport → List Http.Reply
  | [] => found
  | r :: more => leftBy r.trace.left more

variable (p : Prober) (found : List Http.Reply)

/-- A report adds to the log of a send, and to nothing else. -/
theorem probe_took (op : Operation) (payload : Payload) (sink : Sink) :
    Http.Took (Sending.hops p ⟨op, payload, found⟩)
      (p.probe op payload sink found).trace.requests found
      (p.probe op payload sink found).trace.left :=
  (Sending.accounted p ⟨op, payload, found⟩).took

/-- The hops of a step are those of its sends, one send after the other. -/
theorem step_took (s : Step) :
    Http.Took ((p.sendsOf found s).flatMap (Sending.hops p)) (p.step found s).trace.requests found
      (p.step found s).trace.left := by
  cases s with
  | endpoint op => exact .nothing
  | send op payload =>
    rw [sendsOf, List.flatMap_singleton]
    exact (Sending.accounted p ⟨op, payload, found⟩).took
  | probe op payload sink =>
    rw [sendsOf, List.flatMap_singleton]
    exact p.probe_took found op payload sink
  | runAll sink =>
    have hdeploy := p.probe_took found .deploy Operation.deploy.samplePayload sink
    have hcall := p.probe_took
      (p.probe .deploy Operation.deploy.samplePayload sink found).trace.left .call
      Operation.call.samplePayload
      (p.probe .deploy Operation.deploy.samplePayload sink found).sink
    have htrace : (p.step found (.runAll sink)).trace = (p.runAll sink found).trace := rfl
    rw [htrace]
    cases h : (p.probe .deploy Operation.deploy.samplePayload sink found).result with
    | error e =>
      rw [runAll_of_error h, sendsOf, h]
      simpa [Except.isOk, Except.toBool] using hdeploy
    | ok _ =>
      rw [runAll_of_ok h, sendsOf, h]
      simpa [Except.isOk, Except.toBool, Trace.andThen] using hdeploy.append hcall

/-- The requests of a session took the replies from the front, in order. -/
theorem session_took (steps : List Step) :
    Http.Took ((p.sends found steps).flatMap (Sending.hops p))
      ((p.session found steps).flatMap (·.trace.requests)) found
      (leftBy found (p.session found steps)) := by
  induction steps generalizing found with
  | nil => exact .nothing
  | cons s more ih =>
    rw [sends, List.flatMap_append]
    exact (p.step_took found s).append (ih _)

theorem step_silent {s : Step} (h : s.Silent) :
    (p.step found s).trace.requests = [] ∧ (p.step found s).trace.left = found := by
  cases s with
  | endpoint op => exact ⟨rfl, rfl⟩
  | send op payload =>
    obtain ⟨e, he⟩ := h
    change (p.send op payload found).2.requests = [] ∧ (p.send op payload found).2.left = found
    rw [p.send_of_error op found he]
    exact ⟨rfl, rfl⟩
  | probe op payload sink =>
    obtain ⟨e, he⟩ := h
    change (p.send op payload found).2.requests = [] ∧ (p.send op payload found).2.left = found
    rw [p.send_of_error op found he]
    exact ⟨rfl, rfl⟩
  | runAll sink => cases h

/-- Each step finds the replies behind those that the requests before it took. -/
theorem session_getElem? (steps : List Step) (i : Nat) :
    (p.session found steps)[i]? = steps[i]?.map (p.step (found.drop
      (((p.session found steps).take i).flatMap (·.trace.requests)).length)) := by
  induction steps generalizing found i with
  | nil => rfl
  | cons s more ih =>
    cases i with
    | zero => rfl
    | succ i =>
      have hleft := (p.step_took found s).left_eq
      rw [session]
      simp only [List.getElem?_cons_succ, List.take_succ_cons, List.flatMap_cons,
        List.length_append]
      rw [ih, hleft, List.drop_drop]

/-- No reply of a session is lost, used twice or taken out of order. The requests took the replies
from the front, place by place; a step finds what the requests before it left; and each send,
whatever step it belongs to, accounts for the replies that it found. -/
theorem session_accounts (replies : List Http.Reply) (steps : List Step) :
    let reports := p.session replies steps
    let requests := reports.flatMap (·.trace.requests)
    let left := leftBy replies reports
    requests.length + left.length = replies.length ∧
    left = replies.drop requests.length ∧
    Http.hops requests replies = (p.sends replies steps).flatMap (Sending.hops p) ∧
    (∀ i, reports[i]? = steps[i]?.map (p.step (replies.drop
      ((reports.take i).flatMap (·.trace.requests)).length))) ∧
    (∀ s : Step, s.Silent → ∀ found, (p.step found s).trace.requests = [] ∧
      (p.step found s).trace.left = found) ∧
    ∀ s ∈ p.sends replies steps, s.Accounted p := by
  intro reports requests left
  have h : Http.Took _ requests replies left := p.session_took replies steps
  exact ⟨h.total, h.left_eq, h.hops_eq, p.session_getElem? replies steps,
    fun s hs found => p.step_silent found hs, fun s _ => s.accounted p⟩

end Prober

end SmokeProbe
