import SmokeProbe.Proofs.BoundedSink
import SmokeProbe.Proofs.CarriedMessages

/-!
# The framing is not seen

Replies that are read the same lead an exchange the same way, through the same redirects to the same
result. Replies that carry one message are read the same, so neither what a send returns nor what a
probe writes tells how the peer framed its replies, or where it cut a body into chunks.
-/
namespace SmokeProbe

namespace Http
variable [Text.OtherCharsets]

/-! ## Exchanges -/

namespace Exchange

/-- Exchanges with the same result and requests, that leave replies which are read the same. -/
structure Matches (e f : Exchange) : Prop where
  result_eq : e.result = f.result
  requests_eq : e.requests = f.requests
  left_eq : e.left.map Reply.reading = f.left.map Reply.reading

variable (first : Url)

/-- An exchange depends on nothing but how the replies are read. -/
theorem run_matches (n : Nat) (r : Request) {found found' : List Reply}
    (h : found.map Reply.reading = found'.map Reply.reading) :
    (run first n r found).Matches (run first n r found') := by
  induction found generalizing n r found' with
  | nil =>
    rw [List.map_nil, eq_comm, List.map_eq_nil_iff] at h
    rw [h]
    exact ⟨rfl, rfl, rfl⟩
  | cons q more ih =>
    cases found' with
    | nil => cases h
    | cons q' more' =>
      obtain ⟨hq, hmore⟩ := List.cons.inj h
      unfold run
      by_cases hscheme : canConnect r.url.scheme = false
      · rw [if_pos hscheme, if_pos hscheme]
        exact ⟨rfl, rfl, h⟩
      rw [if_neg hscheme, if_neg hscheme]
      simp only
      cases hresponse : q.response with
      | error fault =>
        rw [Reply.reading_of_error hresponse] at hq
        simp only [Reply.response_of_reading_error hq.symm]
        exact ⟨rfl, rfl, hmore⟩
      | ok response =>
        rw [Reply.reading_of_ok hresponse] at hq
        obtain ⟨response', hresponse', hreading⟩ := Reply.response_of_reading_ok hq.symm
        simp only [hresponse', Response.target?_congr hreading, Response.keepsVerb_congr hreading,
          Response.outcome_congr hreading]
        cases target? r response with
        | none => exact ⟨rfl, rfl, hmore⟩
        | some next =>
          cases n with
          | zero => exact ⟨rfl, rfl, hmore⟩
          | succ n =>
            simp only
            split
            · obtain ⟨hresult, hrequests, hleft⟩ :=
                ih n (r.following next response.keepsVerb) hmore
              exact ⟨hresult, congrArg (r :: ·) hrequests, hleft⟩
            · exact ⟨rfl, rfl, hmore⟩

theorem post_matches (u : Url) (body : String) {found found' : List Reply}
    (h : found.map Reply.reading = found'.map Reply.reading) :
    (post u body found).Matches (post u body found') := by
  rw [post_eq, post_eq]
  split
  · exact run_matches _ _ _ h
  · exact ⟨rfl, rfl, h⟩

end Exchange

/-! ## Replies with one message -/

/-- The same reply, or the same message in any two framings. -/
def Reply.Alike (q q' : Reply) : Prop := q = q' ∨ ∃ m, q.Carries m ∧ q'.Carries m

theorem Reply.Alike.reading {q q' : Reply} (h : q.Alike q') : q.reading = q'.reading := by
  rcases h with rfl | ⟨m, hq, hq'⟩
  · rfl
  · rw [hq.reading, hq'.reading]

theorem Reply.Alike.map_reading {found found' : List Reply}
    (h : List.Forall₂ Reply.Alike found found') :
    found.map Reply.reading = found'.map Reply.reading := by
  induction h with
  | nil => rfl
  | cons hq _ ih => rw [List.map_cons, List.map_cons, hq.reading, ih]

end Http

namespace Prober

section
variable [Text.OtherCharsets] {p : Prober} {op : Operation}

/-- Nothing that a send or a probe returns, writes, requests or logs tells the replies apart. -/
structure Matches (p : Prober) (op : Operation) (payload : Payload)
    (found found' : List Http.Reply) : Prop where
  result_eq : (p.send op payload found).1 = (p.send op payload found').1
  requests_eq : (p.send op payload found).2.requests = (p.send op payload found').2.requests
  log_eq : (p.send op payload found).2.log = (p.send op payload found').2.log
  probe_result_eq : ∀ sink, (p.probe op payload sink found).result =
    (p.probe op payload sink found').result
  probe_sink_eq : ∀ sink, (p.probe op payload sink found).sink =
    (p.probe op payload sink found').sink

/-- A probe writes what the result of its send says. -/
theorem Matches.of_send {payload : Payload} {found found' : List Http.Reply}
    (hresult : (p.send op payload found).1 = (p.send op payload found').1)
    (hrequests : (p.send op payload found).2.requests = (p.send op payload found').2.requests)
    (hlog : (p.send op payload found).2.log = (p.send op payload found').2.log) :
    p.Matches op payload found found' where
  result_eq := hresult
  requests_eq := hrequests
  log_eq := hlog
  probe_result_eq sink := by rw [probe_eq, probe_eq, hresult]
  probe_sink_eq sink := by rw [probe_eq, probe_eq, hresult]

variable (p op)

theorem matches_of_alike (payload : Payload) {found found' : List Http.Reply}
    (h : List.Forall₂ Http.Reply.Alike found found') : p.Matches op payload found found' := by
  cases hencode : payload.encode with
  | error e =>
    have hsend := p.send_of_error op found hencode
    have hsend' := p.send_of_error op found' hencode
    apply Matches.of_send
    · rw [hsend, hsend']
    · rw [hsend, hsend']
      rfl
    · rw [hsend, hsend']
      rfl
  | ok text =>
    obtain ⟨hresult, hrequests, _⟩ :=
      Http.Exchange.post_matches (p.endpoint op) text (Http.Reply.Alike.map_reading h)
    have hsend := p.send_of_ok op found hencode
    have hsend' := p.send_of_ok op found' hencode
    apply Matches.of_send
    · rw [hsend, hsend', hresult]
    · rw [hsend, hsend', hrequests]
    · rw [hsend, hsend']

/-- However each message is framed, nothing tells it: neither the result of a send that takes the
replies, through redirects or not, nor what it requests and logs, nor the report of a probe. If the
first message that a peer answers names no other place, the result is its status and its text,
whatever the decoders of the charsets that are not defined here. -/
theorem framing_invisible (payload : Payload) {found found' : List Http.Reply}
    (h : List.Forall₂ Http.Reply.Alike found found') :
    p.Matches op payload found found' ∧
    ∀ m q more, found = q :: more → q.Carries m → m.location = none → p.Reaches op →
      (∃ text, payload.encode = .ok text) →
      (p.send op payload found).1 = .ok ⟨m.status, m.text⟩ := by
  refine ⟨p.matches_of_alike op payload h, ?_⟩
  intro m q more hfound hq hnone hreaches hencode
  obtain ⟨text, hencode⟩ := hencode
  exact Concludes.send (.first q more text hfound hreaches hencode hq (hq.not_redirects hnone _))

end

/-- A message with a body that looks like a chunk, in front of the end of a chunked body. -/
def chunkLike : Http.Message where
  status := 404
  contentType := some (Http.Head.ascii "text/plain")
  location := none
  body := Text.Utf8.bytes "1\r\né\r\n0\r\n\r\n"
  status_range := by decide
  hasBody := by decide

/-- A head that announces the message in chunks. -/
def chunkLikeHead : Http.WrittenHead where
  modern := true
  status := 404
  reason := none
  lineBreak := .returnFeed
  headers :=
    [{ name := Http.Head.ascii "content-type"
       value := Http.Head.ascii " text/plain"
       lineBreak := .returnFeed
       name_ne_nil := by decide
       isName := by decide +kernel
       isValue := by decide +kernel },
     { name := Http.Head.ascii "transfer-encoding"
       value := Http.Head.ascii " Chunked"
       lineBreak := .returnFeed
       name_ne_nil := by decide
       isName := by decide +kernel
       isValue := by decide +kernel }]
  lastBreak := .returnFeed
  hasThreeDigits := by decide
  isReason := nofun

/-- The same message all at once and in two chunks, the first of which ends inside a character. -/
theorem framing_invisible_chunkLike :
    let p : Prober := ⟨{
      scheme := "http"
      host := some (.ipv6 ⟨[0, 0, 0, 0, 0, 0, 0, 1], rfl, by decide⟩)
      port := some 8081, path := .segments [""] }⟩
    let found := [Http.Reply.complete 404 [("Content-Type", "text/plain")] none
      (Text.Utf8.bytes "1\r\né\r\n0\r\n\r\n")]
    let found' := [Http.Reply.raw (Http.Head.ascii
      "HTTP/1.1 404\r\ncontent-type: text/plain\r\ntransfer-encoding: Chunked\r\n\r\n4\r\n1\r\n" ++
        [0xc3] ++ Http.Head.ascii "\r\n8\r\n" ++ [0xa9] ++
        Http.Head.ascii "\r\n0\r\n\r\n\r\n0\r\n\r\n")]
    List.Forall₂ Http.Reply.Alike found found' ∧
    p.Matches .call (.json .null) found found' ∧
    (p.send .call (.json .null) found).1 = .ok ⟨404, "1\r\né\r\n0\r\n\r\n"⟩ := by
  intro p found found'
  let chunks := Http.Chunk.ofPieces
    [Text.Utf8.bytes "1\r\n" ++ [0xc3], [0xa9] ++ Text.Utf8.bytes "\r\n0\r\n\r\n"]
  have hcomplete : Http.Reply.Carries chunkLike (.complete 404 [("Content-Type", "text/plain")]
      none (Text.Utf8.bytes "1\r\né\r\n0\r\n\r\n")) :=
    .complete _ ⟨by decide +kernel, by decide +kernel⟩
  have hchunked : Http.Reply.Carries chunkLike (.raw (chunkLikeHead.bytes ++
      (chunks.flatMap Http.Chunk.bytes ++ Http.Chunk.last))) := by
    refine .pieces (v := Http.Head.ascii "Chunked") ⟨rfl, ?_, by decide⟩ rfl ?_ ?_ ?_ ?_
    · exact ⟨by decide +kernel, by decide +kernel⟩
    · decide +kernel
    · unfold Http.IsChunkedName
      decide +kernel
    · decide +kernel
    · decide +kernel
  have hraw : found' = [.raw (chunkLikeHead.bytes ++
      (chunks.flatMap Http.Chunk.bytes ++ Http.Chunk.last))] := by decide +kernel
  have halike : List.Forall₂ Http.Reply.Alike found found' := by
    rw [hraw]
    exact .cons (.inr ⟨chunkLike, hcomplete, hchunked⟩) .nil
  have hreaches : p.Reaches .call := ⟨rfl, by decide +kernel⟩
  have htext : chunkLike.text = "1\r\né\r\n0\r\n\r\n" := by decide +kernel
  obtain ⟨hmatches, hsent⟩ := p.framing_invisible .call (.json .null) halike
  have houtcome := hsent chunkLike _ [] rfl hcomplete rfl hreaches ⟨_, rfl⟩
  rw [htext] at houtcome
  exact ⟨halike, hmatches, houtcome⟩

end Prober

end SmokeProbe
