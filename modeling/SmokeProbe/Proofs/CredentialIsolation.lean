import SmokeProbe.Proofs.EndpointJoining
import SmokeProbe.Proofs.InterruptedRun
import SmokeProbe.Proofs.RequestHeaders
import SmokeProbe.Proofs.SendHops

/-!
# Isolation of credentials

Deleting the credentials from what a session shows gives the session of the prober that has none.
The deletion commutes with the following of one redirect, hence with an exchange, a send, a step and
a session. What it leaves is therefore the same for all credentials. Within an exchange the
authorization header is handed on as long as the server stays the same, and never comes back.
-/
namespace SmokeProbe

namespace Http

namespace Request

theorem withoutAuthorization_following (r : Request) (next : Url) (keepsVerb : Bool) :
    (r.following next keepsVerb).withoutAuthorization =
      r.withoutAuthorization.following next keepsVerb := by
  unfold following withoutAuthorization
  simp only [ite_self]

theorem withoutAuthorization_post {u : Url} (h : u.TextUserinfo) (body : String) :
    (post u body).withoutAuthorization = post u.withoutUserinfo body := by
  have hnone : Credentials.ofUrl? u.withoutUserinfo = none := by
    rw [← Option.not_isSome_iff_eq_none, Credentials.ofUrl?_isSome u.textUserinfo_withoutUserinfo]
    simp
  unfold post withoutAuthorization
  simp only [post_target h, hnone]
  rfl
end Request

namespace Exchange

def withoutAuthorization (e : Exchange) : Exchange :=
  { e with requests := e.requests.map Request.withoutAuthorization }

variable [Text.OtherCharsets]

theorem run_withoutAuthorization (first : Url) (n : Nat) (r : Request) (qs : List Reply) :
    (run first n r qs).withoutAuthorization = run first n r.withoutAuthorization qs := by
  have htarget (r : Request) (response : Response) :
      target? r.withoutAuthorization response = target? r response := rfl
  have hscheme (r : Request) : r.withoutAuthorization.url.scheme = r.url.scheme := rfl
  fun_induction run first n r qs
  case case1 hs =>
    unfold run
    rw [hscheme, if_pos hs]
    rfl
  case case2 hs =>
    unfold run
    rw [hscheme, if_neg hs]
    rfl
  case case3 hs _ _ fault hq =>
    unfold run
    simp only [hscheme, if_neg hs, hq]
    rfl
  case case4 hs _ _ response hq ht =>
    unfold run
    simp only [hscheme, if_neg hs, hq, htarget, ht]
    rfl
  case case5 hs _ _ response hq next ht =>
    unfold run
    simp only [hscheme, if_neg hs, hq, htarget, ht]
    rfl
  case case6 hs _ _ response hq next redirects ht hw _ ih =>
    unfold run
    simp only [hscheme, if_neg hs, hq, htarget, ht, if_pos hw]
    rw [← Request.withoutAuthorization_following, ← ih]
    rfl
  case case7 hs _ _ response hq next redirects ht hw =>
    unfold run
    simp only [hscheme, if_neg hs, hq, htarget, ht, if_neg hw]
    rfl

theorem post_withoutAuthorization {u : Url} (h : u.TextUserinfo) (body : String)
    (found : List Reply) :
    (post u body found).withoutAuthorization = post u.withoutUserinfo body found := by
  have h' := u.textUserinfo_withoutUserinfo
  rw [post_eq, post_eq, origin_eq h, origin_eq h', Url.withoutUserinfo_withoutUserinfo,
    ← Request.withoutAuthorization_post h, ← run_withoutAuthorization]
  split
  · rfl
  · rfl

end Exchange

theorem Request.sameServer_iff {u v : Url} :
    Request.sameServer u v = true ↔ v.host = u.host ∧ v.effectivePort = u.effectivePort := by
  unfold Request.sameServer
  rw [Bool.and_eq_true, beq_iff_eq, beq_iff_eq, eq_comm, @eq_comm _ u.effectivePort]

/-- The reply leads to the server that it came from, if it leads anywhere. -/
def Hop.StaysOnServer (h : Hop) : Prop :=
  ∀ next, h.Redirects next → Request.sameServer h.request.url next.url = true

theorem Hop.staysOnServer_iff {h : Hop} {next : Request} (hr : h.Redirects next) :
    h.StaysOnServer ↔ Request.sameServer h.request.url next.url = true := by
  constructor
  · intro hs
    exact hs next hr
  · intro hs other ho
    rw [ho.unique hr]
    exact hs

section
variable {chain : List Hop} {first : Request}
  (hchain : chain.IsChain fun a b => a.Redirects b.request)
  (hhead : ∀ h ∈ chain.head?, h.request = first)
include hchain hhead

/-- No hop led to another server exactly if all requests went to the first one. -/
theorem chain_staysOnServer (i : Nat) (hi : i < chain.length) :
    (∀ h ∈ chain.take i, h.StaysOnServer) ↔
      ∀ h ∈ chain.take (i + 1), Request.sameServer first.url h.request.url = true := by
  rw [List.take_succ_eq_append_getElem hi, List.forall_mem_append, List.forall_mem_singleton]
  induction i with
  | zero =>
    have h0 : chain[0].request = first := hhead _ (by rw [List.head?_eq_getElem?]; simp)
    simp [h0, Request.sameServer_iff]
  | succ i ih =>
    have hlast : i < chain.length := by omega
    have hstays := Hop.staysOnServer_iff (hchain.getElem i hi)
    rw [List.take_succ_eq_append_getElem hlast, List.forall_mem_append, List.forall_mem_singleton,
      List.forall_mem_append, List.forall_mem_singleton, ih hlast, hstays]
    simp only [Request.sameServer_iff]
    apply and_congr_right
    rintro ⟨_, hhost, hport⟩
    rw [hhost, hport]

/-- The authorization of a chain stays on its first server. -/
theorem chain_authorization (i : Nat) (hi : i < chain.length) :
    (∀ h ∈ chain.take (i + 1), Request.sameServer first.url h.request.url = true) ∧
        chain[i].request.authorization = first.authorization ∨
      (¬ ∀ h ∈ chain.take (i + 1), Request.sameServer first.url h.request.url = true) ∧
        chain[i].request.authorization = none := by
  rw [← chain_staysOnServer hchain hhead i hi]
  apply chain_carries Request.authorization none Hop.StaysOnServer hchain hhead
  · rintro a next hr hs
    rw [Hop.staysOnServer_iff hr] at hs
    obtain ⟨response, location, u, _, _, _, _, _, rfl⟩ := hr
    exact if_pos hs
  · rintro a next hr hs
    rw [Hop.staysOnServer_iff hr] at hs
    obtain ⟨response, location, u, _, _, _, _, _, rfl⟩ := hr
    exact if_neg hs

end

/-- The authorization of an exchange stays on the server of its first request. -/
theorem Exchange.Orderly.authorization [Text.OtherCharsets] {e : Exchange} {first : Url}
    {r : Request} {found : List Reply} (ho : e.Orderly first r found) (i : Nat) (hi : i < e.requests.length) :
    (∀ s ∈ e.requests.take (i + 1), Request.sameServer r.url s.url = true) ∧
        e.requests[i].authorization = r.authorization ∨
      (¬ ∀ s ∈ e.requests.take (i + 1), Request.sameServer r.url s.url = true) ∧
        e.requests[i].authorization = none := by
  have hlen : i < (hops e.requests found).length := by
    rw [ho.hops_length]
    exact hi
  have hget : (hops e.requests found)[i].request = e.requests[i] := by
    rw [← List.getElem_of_eq ho.requests_eq (by rw [List.length_map]; exact hlen),
      List.getElem_map]
  have htake : e.requests.take (i + 1) =
      ((hops e.requests found).take (i + 1)).map Hop.request := by
    rw [List.map_take, ho.requests_eq]
  rw [htake, List.forall_mem_map, ← hget]
  exact chain_authorization ho.chain ho.head i hlen

end Http

def Event.withoutUserinfo : Event → Event
  | .sending url bytes => .sending url.withoutUserinfo bytes
  | e => e

/-- Only a debug event shows a URL. -/
theorem Event.withoutUserinfo_eq_self {e : Event} (h : e.level ≠ .debug) :
    e.withoutUserinfo = e := by
  cases e with
  | sending => exact absurd rfl h
  | _ => rfl

/-- The requests lose their authorization header, and URLs in the log their user information. -/
def Trace.withoutCredentials (t : Trace) : Trace :=
  { t with
    requests := t.requests.map Http.Request.withoutAuthorization
    log := t.log.map Event.withoutUserinfo }

def StepResult.withoutUserinfo : StepResult → StepResult
  | .endpoint url => .endpoint url.withoutUserinfo
  | r => r

def StepReport.withoutCredentials (r : StepReport) : StepReport :=
  ⟨r.result.withoutUserinfo, r.trace.withoutCredentials⟩

theorem Trace.withoutCredentials_andThen (t u : Trace) :
    (t.andThen u).withoutCredentials = t.withoutCredentials.andThen u.withoutCredentials := by
  unfold andThen withoutCredentials
  simp only [List.map_append]

theorem Trace.withoutCredentials_logging (t : Trace) (e : Event) :
    (t.logging e).withoutCredentials = t.withoutCredentials.logging e.withoutUserinfo := by
  unfold logging withoutCredentials
  simp only [List.map_append, List.map_cons, List.map_nil]

namespace Prober

/-- The prober of the same operations without user name and password. -/
def withoutUserinfo (p : Prober) : Prober := ⟨p.baseUrl.withoutUserinfo⟩

theorem withoutUserinfo_endpoint (p : Prober) (op : Operation) :
    p.withoutUserinfo.endpoint op = (p.endpoint op).withoutUserinfo := rfl

theorem closing_withoutUserinfo (op : Operation) (result : Except ProbeError Http.Outcome) :
    (closing op result).withoutUserinfo = closing op result := by
  apply Event.withoutUserinfo_eq_self
  cases result <;> exact nofun

variable [Text.OtherCharsets] {p : Prober} (h : p.baseUrl.TextUserinfo)
include h

theorem send_withoutUserinfo (op : Operation) (payload : Payload) (found : List Http.Reply) :
    p.withoutUserinfo.send op payload found =
      ((p.send op payload found).1, (p.send op payload found).2.withoutCredentials) := by
  cases hbody : payload.encode with
  | error e =>
    rw [send_of_error _ _ _ hbody, send_of_error _ _ _ hbody]
    rfl
  | ok body =>
    have hpost := Http.Exchange.post_withoutAuthorization (p.endpoint_textUserinfo op h) body found
    rw [send_of_ok _ _ _ hbody, send_of_ok _ _ _ hbody, withoutUserinfo_endpoint, ← hpost]
    rfl

theorem probe_withoutUserinfo (op : Operation) (payload : Payload) (sink : Sink)
    (found : List Http.Reply) :
    p.withoutUserinfo.probe op payload sink found =
      { p.probe op payload sink found with
        trace := (p.probe op payload sink found).trace.withoutCredentials } := by
  rw [probe_eq, probe_eq, probeTrace, send_withoutUserinfo h]
  simp only [probeTrace, Trace.withoutCredentials_logging, closing_withoutUserinfo]

theorem runAll_withoutUserinfo (sink : Sink) (found : List Http.Reply) :
    p.withoutUserinfo.runAll sink found =
      { p.runAll sink found with
        trace := (p.runAll sink found).trace.withoutCredentials } := by
  have hdeploy := probe_withoutUserinfo h .deploy Operation.deploy.samplePayload sink found
  have hresult :
      (p.withoutUserinfo.probe .deploy Operation.deploy.samplePayload sink found).result =
        (p.probe .deploy Operation.deploy.samplePayload sink found).result := by
    rw [hdeploy]
  cases hd : (p.probe .deploy Operation.deploy.samplePayload sink found).result with
  | error e =>
    rw [runAll_of_error hd, runAll_of_error (hresult.trans hd), hdeploy]
  | ok _ =>
    rw [runAll_of_ok hd, runAll_of_ok (hresult.trans hd), hdeploy]
    simp only [probe_withoutUserinfo h, Trace.withoutCredentials_andThen]
    rfl

theorem step_withoutUserinfo (found : List Http.Reply) (s : Step) :
    p.withoutUserinfo.step found s = (p.step found s).withoutCredentials := by
  unfold step
  cases s with
  | endpoint op => rfl
  | send op payload =>
    simp only [send_withoutUserinfo h]
    rfl
  | probe op payload sink =>
    simp only [probe_withoutUserinfo h]
    rfl
  | runAll sink =>
    simp only [runAll_withoutUserinfo h]
    rfl

/-- The session without credentials is the session of the prober without them. -/
theorem session_withoutUserinfo (found : List Http.Reply) (steps : List Step) :
    p.withoutUserinfo.session found steps =
      (p.session found steps).map StepReport.withoutCredentials := by
  induction steps generalizing found with
  | nil => rfl
  | cons s more ih =>
    rw [session, session, step_withoutUserinfo h, List.map_cons]
    exact congrArg (_ :: ·) (ih _)

omit h in
/-- The results of the steps that send show no URL. -/
theorem session_result (found : List Http.Reply) (steps : List Step)
    (hsteps : ∀ op, Step.endpoint op ∉ steps) :
    ((p.session found steps).map StepReport.withoutCredentials).map StepReport.result =
      (p.session found steps).map StepReport.result := by
  induction steps generalizing found with
  | nil => rfl
  | cons s more ih =>
    have hs : (p.step found s).withoutCredentials.result = (p.step found s).result := by
      cases s with
      | endpoint op => exact absurd (List.mem_cons_self ..) (hsteps op)
      | send => rfl
      | probe => rfl
      | runAll => rfl
    rw [session, List.map_cons, List.map_cons, List.map_cons, hs]
    exact congrArg (_ :: ·) (ih _ (fun op hop => hsteps op (List.mem_cons_of_mem _ hop)))

/-- A request of a send carries the credentials of the base URL as long as neither itself nor a
request before it went to another server. -/
theorem send_authorization (op : Operation) (payload : Payload) (found : List Http.Reply)
    {requests : List Http.Request} (hr : (p.send op payload found).2.requests = requests) (i : Nat)
    (hi : i < requests.length) :
    (∀ r ∈ requests.take (i + 1), Http.Request.sameServer p.baseUrl r.url = true) ∧
        requests[i].authorization =
          (Http.Credentials.ofUrl? p.baseUrl).map Http.Credentials.basic ∨
      (¬ ∀ r ∈ requests.take (i + 1), Http.Request.sameServer p.baseUrl r.url = true) ∧
        requests[i].authorization = none := by
  cases hbody : payload.encode with
  | error e =>
    rw [send_of_error _ _ _ hbody] at hr
    subst hr
    cases hi
  | ok body =>
    rw [send_of_ok _ _ _ hbody] at hr
    have hurl := Http.Request.post_url (p.endpoint_textUserinfo op h) body
    have hauth := (Http.Exchange.post_orderly (p.endpoint op) body found).authorization
    rw [hurl] at hauth
    subst hr
    exact hauth i hi

end Prober

namespace Prober

/-- A base URL that was read has no empty password. -/
theorem hasUserinfo_iff {c : Config} {p : Prober} (h : ofConfig c = .ok p) :
    p.baseUrl.HasUserinfo ↔ p.baseUrl.username ≠ "" ∨ p.baseUrl.password ≠ none := by
  have hpassword : p.baseUrl.password ≠ some "" :=
    Url.parse_password (Config.parse_of_resolve (resolve_of_ofConfig h))
  unfold Url.HasUserinfo
  cases hw : p.baseUrl.password with
  | none => simp
  | some w =>
    have hne : w ≠ "" := by
      rintro rfl
      exact hpassword hw
    simp [hne]

/-- Credentials influence nothing but the authorization header, and stay on the server of the base
URL. Whatever the steps, payloads, sinks and replies are, the session of a prober whose base URL
differs in user name and password only is the same one once the credentials are deleted from both:
the same replies are left, the same requests are sent but for that header, the same events are
logged but for the user information in the URL of a debug event, and steps that send have the same
results and output. In an exchange the header is there exactly if there are credentials and no
request so far went to another server, and its value is always the same. -/
theorem session_credentials [Text.OtherCharsets] {c : Config} {p : Prober} (hp : ofConfig c = .ok p)
    (htext : p.baseUrl.TextUserinfo) :
    (∀ q : Prober, q.baseUrl.TextUserinfo →
      q.baseUrl.withoutUserinfo = p.baseUrl.withoutUserinfo → ∀ replies steps,
        (p.session replies steps).map StepReport.withoutCredentials =
          (q.session replies steps).map StepReport.withoutCredentials ∧
        ((∀ op, Step.endpoint op ∉ steps) → (p.session replies steps).map StepReport.result =
          (q.session replies steps).map StepReport.result)) ∧
    ∃ value, ∀ op payload found,
      let requests := (p.send op payload found).2.requests
      ∀ i (hi : i < requests.length),
        let stays := ∀ r ∈ requests.take (i + 1),
          r.url.host = p.baseUrl.host ∧ r.url.effectivePort = p.baseUrl.effectivePort
        (p.baseUrl.HasUserinfo ∧ stays → requests[i].valuesOf "authorization" = [value]) ∧
        (¬ (p.baseUrl.HasUserinfo ∧ stays) → requests[i].valuesOf "authorization" = []) := by
  constructor
  · intro q hq hsame replies steps
    have hpq : p.withoutUserinfo = q.withoutUserinfo := congrArg Prober.mk hsame.symm
    have hall : (p.session replies steps).map StepReport.withoutCredentials =
        (q.session replies steps).map StepReport.withoutCredentials := by
      rw [← session_withoutUserinfo htext, ← session_withoutUserinfo hq, hpq]
    refine ⟨hall, ?_⟩
    intro hsteps
    rw [← session_result _ _ hsteps, ← session_result _ _ hsteps, hall]
  · refine ⟨((Http.Credentials.ofUrl? p.baseUrl).map Http.Credentials.basic).getD "", ?_⟩
    intro op payload found requests i hi stays
    have hstays : stays ↔
        ∀ r ∈ requests.take (i + 1), Http.Request.sameServer p.baseUrl r.url = true := by
      simp only [stays, Http.Request.sameServer_iff]
    rw [hasUserinfo_iff hp, ← Http.Credentials.ofUrl?_isSome htext, hstays,
      Http.Request.valuesOf_authorization]
    rcases send_authorization htext op payload found rfl i hi with ⟨hs, ha⟩ | ⟨hs, ha⟩
    · rw [ha]
      cases hc : Http.Credentials.ofUrl? p.baseUrl with
      | none => simp
      | some credentials => exact ⟨fun _ => rfl, fun hn => absurd ⟨rfl, hs⟩ hn⟩
    · rw [ha]
      exact ⟨fun hn => absurd hn.2 hs, fun _ => rfl⟩

/-- Name and password go to the server of the base URL twice, are dropped on the way to another
server, and do not come back with the last redirect. -/
theorem session_credentials_dropped :
    let server : Url.Host := .ipv6 ⟨[0, 0, 0, 0, 0, 0, 0, 1], rfl, by decide⟩
    let p : Prober := ⟨{
      scheme := "http", username := "a", password := some "b", host := some server
      port := some 8081, path := .segments [""] }⟩
    let q : Prober := ⟨{
      scheme := "http", host := some server, port := some 8081, path := .segments [""] }⟩
    let found : List Http.Reply := [
      .complete 307 [("location", "/x")] none [],
      .complete 302 [("location", "http://[::2]/")] none [],
      .complete 307 [("location", "http://[::1]:8081/")] none [],
      .complete 200 [] none [111]]
    let requests := (p.send .call (.json .null) found).2.requests
    (ofConfig { baseUrl := some "http://a:b@[::1]:8081/" } = .ok p ∧ p.baseUrl.TextUserinfo ∧
        p.baseUrl.HasUserinfo) ∧
      (q.baseUrl.TextUserinfo ∧ q.baseUrl.withoutUserinfo = p.baseUrl.withoutUserinfo) ∧
      requests.map (Http.Request.valuesOf · "authorization") =
        [["Basic YTpi"], ["Basic YTpi"], [], []] ∧
      ∀ replies sink, (p.session replies [.runAll sink]).map StepReport.result =
        (q.session replies [.runAll sink]).map StepReport.result := by
  intro server p q found requests
  have hp : ofConfig { baseUrl := some "http://a:b@[::1]:8081/" } = .ok p := by decide +kernel
  have htext : p.baseUrl.TextUserinfo := by
    refine ⟨by decide +kernel, ?_⟩
    rintro password ⟨⟩
    decide +kernel
  have hq : q.baseUrl.TextUserinfo := q.baseUrl.textUserinfo_withoutUserinfo
  refine ⟨⟨hp, htext, .inl (by decide)⟩, ⟨hq, rfl⟩, by decide +kernel, ?_⟩
  intro replies sink
  exact ((session_credentials hp htext).1 q hq rfl replies [.runAll sink]).2 (by simp)

end Prober

end SmokeProbe
