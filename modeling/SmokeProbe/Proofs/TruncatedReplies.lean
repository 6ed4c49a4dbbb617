import SmokeProbe.Proofs.FramedReplies
import SmokeProbe.Proofs.OneLineFailures
import SmokeProbe.Proofs.ReplyAccounting

/-!
# Truncated replies

A reply that breaks off before its own end, wherever that is: in the head, in the body, in the size
of a chunk, between the line breaks at the end. Its head is not read, or its body is not; in neither
case is there an outcome. So an exchange that takes such a reply fails, and what a probe writes and
logs is one error.
-/
namespace SmokeProbe

namespace Http

/-- A response that is not followed, whatever it says about another place. -/
def Response.LeadsNowhere (r : Response) : Prop :=
  r.status ∉ [301, 302, 303, 307, 308] ∨ Head.valuesOf r.headers "location" = []

theorem Hop.not_redirects {h : Hop} {response : Response}
    (hq : h.reply.response = .ok response) (hn : response.LeadsNowhere) (next : Request) :
    ¬ h.Redirects next := by
  rintro ⟨response', location, u, hq', hstatus, hlocation, -⟩
  rw [hq] at hq'
  cases hq'
  rcases hn with hstatus' | hnone
  · exact hstatus' hstatus
  · rw [Response.location?, Response.header?, hnone] at hlocation
    cases hlocation

/-- A reply that is not all there: bytes that stand in front of the end of a whole reply, or an
answer with a shorter body than it declares. -/
inductive Reply.Truncated : Reply → Prop
  | raw (r : ReplyText) (s t : List UInt8) : s ++ t = r.bytes → t ≠ [] → Truncated (.raw s)
  | complete (status : Nat) (headers : List (String × String)) (n : Nat) (body : List UInt8) :
      200 ≤ status ∧ status < 600 → status ≠ 204 ∧ status ≠ 304 →
      status ∉ [301, 302, 303, 307, 308] ∨
        Head.valuesOf (headers.map Reply.header) "location" = [] →
      body.length < n → Truncated (.complete status headers (some n) body)

variable [Text.OtherCharsets]

theorem Response.text_of_unread {r : Response} (h : ∀ body, r.body ≠ .ok body) :
    ∃ fault, r.text = .error fault := by
  unfold Response.text
  cases hbody : r.body with
  | ok body => exact absurd hbody (h body)
  | error fault => exact ⟨fault, rfl⟩

/-- A truncated reply has no readable head, or it has no readable body. -/
theorem Reply.Truncated.response {q : Reply} (h : q.Truncated) :
    (∃ fault, q.response = .error fault) ∨ ∃ response fault, q.response = .ok response ∧
      response.text = .error fault ∧ response.LeadsNowhere := by
  cases hresponse : q.response with
  | error fault => exact .inl ⟨fault, rfl⟩
  | ok response =>
    right
    have hunread : (∀ body, response.body ≠ .ok body) ∧ response.LeadsNowhere := by
      cases h with
      | raw r s t hwhole ht =>
        obtain ⟨⟨head, rest⟩, hfinal, hresponse⟩ := bind_eq_ok.mp hresponse
        obtain ⟨framing, hframing, hresponse⟩ := bind_eq_ok.mp hresponse
        cases hresponse
        obtain ⟨rfl, hbody⟩ := r.final_broken hwhole hfinal
        have hframed : Framing.Framed r.head.head (rest ++ t) := by
          rw [hbody]
          exact r.framed
        exact ⟨Framing.read_of_broken r.isBodiless hframed ht hframing, r.leadsNowhere⟩
      | complete status headers n body hrange hbody hlocation hshort =>
        rw [Reply.response, if_neg (by simp [Head.isInterim_of_le hrange.1])] at hresponse
        cases hresponse
        have hbodiless := Framing.isBodiless_of_le hrange.1 hbody
        have hframing : framing status (some n) body = .length n := by
          rw [framing, hbodiless]
          rfl
        have hread : (framing status (some n) body).read body = .error .short := by
          rw [hframing]
          exact if_neg (by omega)
        refine ⟨fun body' hbody' => ?_, hlocation⟩
        rw [hread] at hbody'
        cases hbody'
    obtain ⟨fault, htext⟩ := Response.text_of_unread hunread.1
    exact ⟨response, fault, rfl, htext, hunread.2⟩

namespace Exchange

/-- An exchange that takes a truncated reply fails. -/
theorem Orderly.truncated {e : Exchange} {first : Url} {r : Request} {found : List Reply}
    (ho : e.Orderly first r found) {h : Hop} (hh : h ∈ hops e.requests found)
    (hq : h.reply.Truncated) : ∃ f, e.result = .error f := by
  obtain ⟨i, hi, rfl⟩ := List.mem_iff_getElem.mp hh
  rcases hq.response with ⟨fault, hunread⟩ | ⟨response, fault, hresponse, htext, hnowhere⟩
  · exact ⟨_, (ho.unread hi hunread).2⟩
  · have hresult := (ho.answered hi hresponse (Hop.not_redirects hresponse hnowhere)).2
    rw [outcome, htext] at hresult
    exact ⟨_, hresult⟩

/-- An exchange that finds a truncated reply first fails, whether it takes the reply or not. -/
theorem Orderly.truncated_first {e : Exchange} {first : Url} {r : Request} {q : Reply}
    {more : List Reply} (ho : e.Orderly first r (q :: more)) (hq : q.Truncated) :
    ∃ f, e.result = .error f := by
  cases hrequests : e.requests with
  | nil =>
    rcases ho.idle hrequests with he | he | he
    · exact ⟨_, he⟩
    · exact ⟨_, he⟩
    · exact ⟨_, he⟩
  | cons r' requests =>
    have hhop : Hop.mk r' q ∈ hops e.requests (q :: more) := by
      rw [hrequests, hops_cons]
      exact List.mem_cons_self
    exact ho.truncated hhop hq

end Exchange

end Http

namespace Prober

/-- No truncated reply is ever reported as a completed exchange. If the first reply that a send
finds is truncated, or any reply that it takes on its way through redirects, then the send fails;
the probe writes one line, which says so, and logs a warning behind the debug event of every send. -/
theorem truncated_fails [Text.OtherCharsets] {c : Config} {p : Prober} (hp : ofConfig c = .ok p)
    (op : Operation) {payload : Payload} {text : String} (hencode : payload.encode = .ok text)
    {found : List Http.Reply}
    (h : (∃ q ∈ found.head?, q.Truncated) ∨
      ∃ hop ∈ Http.hops (p.send op payload found).2.requests found, hop.reply.Truncated) :
    ∃ f, (p.send op payload found).1 = .error (.transport f) ∧
      let line := "Error calling " ++ op.name ++ " API: " ++ (ProbeError.transport f).describe
      '\n' ∉ line.toList ∧
      ∀ sink : Sink, sink.room = none → sink.written = [] →
        let probe := p.probe op payload sink found
        probe.sink.written = Report.lineBytes line ∧
        probe.trace.log =
          [.sending (p.endpoint op) (Text.Utf8.bytes text).length, .failed op f.message] ∧
        probe.trace.log.map Event.level = [.debug, .warn] := by
  have hsend := p.send_of_ok op found hencode
  have ho := Http.Exchange.post_orderly (p.endpoint op) text found
  have hfails : ∃ f, (Http.Exchange.post (p.endpoint op) text found).result = .error f := by
    rcases h with ⟨q, hq, htruncated⟩ | ⟨hop, hhop, htruncated⟩
    · obtain ⟨more, rfl⟩ := List.head?_eq_some_iff.mp hq
      exact ho.truncated_first htruncated
    · rw [hsend] at hhop
      exact ho.truncated hhop htruncated
  obtain ⟨f, hf⟩ := hfails
  have hresult : (p.send op payload found).1 = .error (.transport f) := by
    rw [hsend, hf]
    rfl
  refine ⟨f, hresult, ?_, fun sink hroom hempty => ?_⟩
  · have hdescribe := describe_oneLine hp hresult
    have hname : '\n' ∉ op.name.toList := by cases op <;> decide
    simp [hdescribe, hname]
  · have hlog : (p.probe op payload sink found).trace.log =
        [.sending (p.endpoint op) (Text.Utf8.bytes text).length, .failed op f.message] := by
      rw [probe_trace, probeTrace, hresult, hsend]
      rfl
    refine ⟨?_, hlog, ?_⟩
    · rw [written_of_room p found hroom hempty, report, hresult]
      simp [Report.bytes, Report.lines]
    · rw [hlog]
      rfl

/-- A reply with one chunk, the text `hello`. -/
def chunkedHello : Http.ReplyText where
  interim := []
  head :=
    { modern := true
      status := 200
      reason := some (Http.Head.ascii "OK")
      lineBreak := .returnFeed
      headers :=
        [{ name := Http.Head.ascii "Transfer-Encoding"
           value := Http.Head.ascii " chunked"
           lineBreak := .returnFeed
           name_ne_nil := by decide
           isName := by decide +kernel
           isValue := by decide +kernel }]
      lastBreak := .returnFeed
      hasThreeDigits := by decide
      isReason := by
        rintro r ⟨⟩
        decide +kernel }
  body :=
    [({ digits := Http.Head.ascii "5"
        blanks := []
        extension := none
        data := Http.Head.ascii "hello"
        isSize := by decide +kernel
        isBlank := nofun
        isExtension := nofun
        data_ne_nil := by decide } : Http.Chunk)].flatMap Http.Chunk.bytes ++ Http.Chunk.last
  isInterim := nofun
  framed := .chunks _ (Http.Head.ascii "chunked")
    (by decide +kernel) (by unfold Http.IsChunkedName; decide +kernel)
  status_range := by decide
  hasBody := by decide
  leadsNowhere := .inl (by decide)

/-- All of it but the last line feed: the data have arrived, and still the send fails. -/
theorem truncated_fails_before_lineFeed :
    let c : Config := { baseUrl := some "http://[::1]:8081/" }
    let p : Prober := ⟨{
      scheme := "http"
      host := some (.ipv6 ⟨[0, 0, 0, 0, 0, 0, 0, 1], rfl, by decide⟩)
      port := some 8081, path := .segments [""] }⟩
    let found := [Http.Reply.raw (Http.Head.ascii
      "HTTP/1.1 200 OK\r\nTransfer-Encoding: chunked\r\n\r\n5\r\nhello\r\n0\r\n\r")]
    (ofConfig c = .ok p ∧ (Payload.json .null).encode = .ok "null" ∧
      ((∃ q ∈ found.head?, q.Truncated) ∨
        ∃ hop ∈ Http.hops (p.send .deploy (.json .null) found).2.requests found,
          hop.reply.Truncated)) ∧
    ∃ f, (p.send .deploy (.json .null) found).1 = .error (.transport f) ∧
      let line := "Error calling " ++ Operation.deploy.name ++ " API: " ++
        (ProbeError.transport f).describe
      '\n' ∉ line.toList ∧
      ∀ sink : Sink, sink.room = none → sink.written = [] →
        let probe := p.probe .deploy (.json .null) sink found
        probe.sink.written = Report.lineBytes line ∧
        probe.trace.log =
          [.sending (p.endpoint .deploy) (Text.Utf8.bytes "null").length,
            .failed .deploy f.message] ∧
        probe.trace.log.map Event.level = [.debug, .warn] := by
  intro c p found
  have hp : ofConfig c = .ok p := by decide +kernel
  have hencode : (Payload.json .null).encode = .ok "null" := by decide +kernel
  have hbroken : (∃ q ∈ found.head?, q.Truncated) ∨
      ∃ hop ∈ Http.hops (p.send .deploy (.json .null) found).2.requests found,
        hop.reply.Truncated := by
    refine .inl ⟨_, rfl, .raw chunkedHello _ [10] ?_ (List.cons_ne_nil _ _)⟩
    decide +kernel
  exact ⟨⟨hp, hencode, hbroken⟩, truncated_fails hp .deploy hencode hbroken⟩

end Prober

end SmokeProbe
