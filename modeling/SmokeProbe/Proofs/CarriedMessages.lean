import SmokeProbe.Proofs.ChunkReading
import SmokeProbe.Proofs.FramedReplies
import SmokeProbe.Proofs.ReplyAccounting

/-!
# Messages in any framing

What a reply says is its status, the type and the place that it names, and its body. It can say so
in one piece, behind the length of the body, in chunks, or up to the close of the connection, and
with interim heads in front. An exchange reads of a reply nothing but what it says, so it reads the
same in all four framings.
-/
namespace SmokeProbe

namespace Http

/-! ## Messages -/

/-- What a reply says. -/
structure Message where
  status : Nat
  /-- The value of the first header of its name, if there is one. -/
  contentType : Option (List UInt8)
  location : Option (List UInt8)
  body : List UInt8
  status_range : 200 ≤ status ∧ status < 1000
  hasBody : status ≠ 204 ∧ status ≠ 304

namespace Message

/-- The charset that the message declares. -/
def charset (m : Message) : Text.Charset :=
  ((m.contentType.bind Framing.visible?).map MediaType.charset).getD .utf8

/-- Headers that say what the message says. Others may stand among them. -/
structure IsSaidBy (m : Message) (hs : List Header) : Prop where
  contentType : (Head.valuesOf hs "content-type").head? = m.contentType
  location : (Head.valuesOf hs "location").head? = m.location

/-- A head that says what the message says, with no more headers than are taken. -/
structure IsHeadedBy (m : Message) (w : WrittenHead) : Prop where
  status_eq : w.status = m.status
  said : m.IsSaidBy w.head.headers
  fits : w.headers.length ≤ Head.maxHeaders

theorem isInterim (m : Message) : Head.isInterim m.status = false :=
  Head.isInterim_of_le m.status_range.1

theorem isBodiless (m : Message) : Framing.isBodiless m.status = false :=
  Framing.isBodiless_of_le m.status_range.1 m.hasBody

end Message

/-- The replies that say what a message says: all at once, behind the length of the body, in chunks
behind a head of the newer version, or up to the close of the connection; and any of the last three
behind an interim head. -/
inductive Reply.Carries (m : Message) : Reply → Prop
  | complete (headers : List (String × String)) : m.IsSaidBy (headers.map Reply.header) →
      Carries m (.complete m.status headers none m.body)
  | counted (w : WrittenHead) : m.IsHeadedBy w →
      Head.valuesOf w.head.headers "transfer-encoding" = [] →
      Head.valuesOf w.head.headers "content-length" ≠ [] →
      (∀ v ∈ Head.valuesOf w.head.headers "content-length", IsNumeral v m.body.length) →
      m.body.length ≤ Framing.maxLength → Carries m (.raw (w.bytes ++ m.body))
  | chunked (w : WrittenHead) (v : List UInt8) (cs : List Chunk) : m.IsHeadedBy w →
      w.modern = true →
      (Head.valuesOf w.head.headers "transfer-encoding").getLast? = some v → IsChunkedName v →
      (∀ c ∈ cs, c.extension = none ∧ c.data.length ≤ ChunkState.maxSize) →
      cs.flatMap Chunk.data = m.body →
      Carries m (.raw (w.bytes ++ (cs.flatMap Chunk.bytes ++ Chunk.last)))
  | unframed (w : WrittenHead) : m.IsHeadedBy w →
      Head.valuesOf w.head.headers "transfer-encoding" = [] →
      Head.valuesOf w.head.headers "content-length" = [] → Carries m (.raw (w.bytes ++ m.body))
  | interim (w : WrittenHead) (s : List UInt8) : w.IsInterim → Carries m (.raw s) →
      Carries m (.raw (w.bytes ++ s))

theorem Framing.ofHead_untilClose {h : Head} (hstatus : isBodiless h.status = false)
    (hencoding : Head.valuesOf h.headers "transfer-encoding" = [])
    (hlength : Head.valuesOf h.headers "content-length" = []) : ofHead h = .ok .untilClose := by
  unfold ofHead
  simp only
  rw [hstatus, if_neg Bool.false_ne_true, hencoding, if_neg (by simp), hlength,
    if_pos List.isEmpty_nil]

namespace Reply

/-- A message can be sent in chunks however its body is cut. -/
theorem Carries.pieces {m : Message} {w : WrittenHead} (hw : m.IsHeadedBy w)
    (hmodern : w.modern = true) {v : List UInt8}
    (hlast : (Head.valuesOf w.head.headers "transfer-encoding").getLast? = some v)
    (hv : IsChunkedName v) {pieces : List (List UInt8)}
    (hsize : ∀ piece ∈ pieces, piece.length ≤ ChunkState.maxSize)
    (hwhole : pieces.flatten = m.body) :
    Carries m (.raw (w.bytes ++ ((Chunk.ofPieces pieces).flatMap Chunk.bytes ++ Chunk.last))) := by
  refine .chunked w v _ hw hmodern hlast hv (fun c hc => ?_) ?_
  · obtain ⟨hplain, hpiece⟩ := Chunk.of_mem_ofPieces hc
    exact ⟨hplain, hsize _ hpiece⟩
  · rw [Chunk.flatMap_ofPieces, hwhole]

theorem response_raw {m : Message} {w : WrittenHead} (hw : m.IsHeadedBy w) {s : List UInt8}
    {framing : Framing} (hframing : Framing.ofHead w.head = .ok framing)
    (hbody : framing.read s = .ok m.body) :
    (Reply.raw (w.bytes ++ s)).response = .ok ⟨m.status, w.head.headers, .ok m.body⟩ := by
  have hfinal : Head.isInterim w.status = false := by rw [hw.status_eq, m.isInterim]
  rw [response, ofBytes, Head.final_written hfinal hw.fits, ok_bind]
  simp only
  rw [hframing, ok_bind, hbody, ← hw.status_eq]
  rfl

/-- Whatever the framing, the response has the body of the message, and headers that say what the
message says. -/
theorem Carries.response_eq {m : Message} {q : Reply} (h : q.Carries m) :
    ∃ hs, m.IsSaidBy hs ∧ q.response = .ok ⟨m.status, hs, .ok m.body⟩ := by
  have hbodiless := m.isBodiless
  have hhead : ∀ {w : WrittenHead}, m.IsHeadedBy w → Framing.isBodiless w.head.status = false := by
    intro w hw
    rw [show w.head.status = m.status from hw.status_eq, hbodiless]
  induction h with
  | complete headers hsaid =>
    refine ⟨_, hsaid, ?_⟩
    simp only [response, m.isInterim, framing, hbodiless, Bool.false_eq_true, if_false,
      Option.getD_none, Framing.read, Nat.le_refl, if_true, List.take_length]
  | counted w hw hencoding hlength hn hle =>
    have hframing := Framing.ofHead_length (hhead hw) hencoding hlength hn
    rw [if_pos hle] at hframing
    refine ⟨_, hw.said, response_raw hw hframing ?_⟩
    rw [Framing.read, if_pos (Nat.le_refl _), List.take_length]
  | chunked w v cs hw hmodern hlast hv hcs hdata =>
    have hframing := Framing.ofHead_chunks (hhead hw) hlast hv
    rw [if_pos (show w.head.modern = true from hmodern)] at hframing
    refine ⟨_, hw.said, response_raw hw hframing ?_⟩
    rw [Framing.read, ChunkState.read_chunks fun c hc => (hcs c hc).2, hdata]
  | unframed w hw hencoding hlength =>
    have hframing := Framing.ofHead_untilClose (hhead hw) hencoding hlength
    exact ⟨_, hw.said, response_raw hw hframing rfl⟩
  | interim w s hw _ ih => rwa [response_interim hw]

end Reply

/-! ## What is read of a reply -/

variable [Text.OtherCharsets]

/-- All that an exchange uses of a response. -/
structure Reading where
  status : Nat
  location? : Option String
  text : Except BodyFault String

def Response.reading (r : Response) : Reading := ⟨r.status, r.location?, r.text⟩

def Reply.reading (q : Reply) : Except HeadFault Reading := q.response.map Response.reading

theorem Reply.reading_of_error {q : Reply} {fault : HeadFault} (h : q.response = .error fault) :
    q.reading = .error fault := by
  rw [reading, h]
  rfl

theorem Reply.reading_of_ok {q : Reply} {response : Response} (h : q.response = .ok response) :
    q.reading = .ok response.reading := by
  rw [reading, h]
  rfl

theorem Reply.response_of_reading_error {q : Reply} {fault : HeadFault}
    (h : q.reading = .error fault) : q.response = .error fault := by
  cases hresponse : q.response with
  | error fault' =>
    rw [reading_of_error hresponse] at h
    cases h
    rfl
  | ok response =>
    rw [reading_of_ok hresponse] at h
    cases h

theorem Reply.response_of_reading_ok {q : Reply} {g : Reading} (h : q.reading = .ok g) :
    ∃ response, q.response = .ok response ∧ response.reading = g := map_eq_ok.mp h

namespace Response
variable {a b : Response}

theorem target?_congr (h : a.reading = b.reading) (r : Request) : target? r a = target? r b := by
  rw [reading, reading, Reading.mk.injEq] at h
  unfold target? isRedirect
  rw [h.1, h.2.1]

theorem keepsVerb_congr (h : a.reading = b.reading) : a.keepsVerb = b.keepsVerb := by
  rw [reading, reading, Reading.mk.injEq] at h
  unfold keepsVerb
  rw [h.1]

theorem outcome_congr (h : a.reading = b.reading) : outcome a = outcome b := by
  rw [reading, reading, Reading.mk.injEq] at h
  unfold outcome
  rw [h.1, h.2.2]

end Response

namespace Message

/-- The body as text. -/
def text (m : Message) : String := String.ofList (m.charset.decode m.body)

def reading (m : Message) : Reading :=
  ⟨m.status, (m.location.bind Text.Utf8.decode?).map String.ofList, .ok m.text⟩

/-- A response that says what the message says and has its body is read as the message. -/
theorem reading_of_response {m : Message} {hs : List Header} (h : m.IsSaidBy hs) :
    Response.reading ⟨m.status, hs, .ok m.body⟩ = m.reading := by
  simp only [Response.reading, Response.location?, Response.text, Response.charset,
    Response.header?, h.contentType, h.location]
  rfl

end Message

namespace Reply

theorem Carries.reading {m : Message} {q : Reply} (h : q.Carries m) : q.reading = .ok m.reading := by
  obtain ⟨hs, hsaid, hresponse⟩ := h.response_eq
  rw [reading_of_ok hresponse, m.reading_of_response hsaid]

/-- The response to a reply that carries a message, as far as it is used. -/
theorem Carries.response {m : Message} {q : Reply} (h : q.Carries m) :
    ∃ response, q.response = .ok response ∧ response.location? = m.reading.location? ∧
      outcome response = .ok ⟨m.status, m.text⟩ := by
  obtain ⟨response, hresponse, hreading⟩ := Reply.response_of_reading_ok h.reading
  have hstatus : response.status = m.status := congrArg Reading.status hreading
  have htext : response.text = .ok m.text := congrArg Reading.text hreading
  refine ⟨response, hresponse, congrArg Reading.location? hreading, ?_⟩
  rw [outcome, htext, hstatus]

/-- Where no place is named, nothing is followed. -/
theorem Carries.not_redirects {m : Message} {q : Reply} (h : q.Carries m)
    (hnone : m.location = none) (r next : Request) : ¬ Hop.Redirects ⟨r, q⟩ next := by
  intro hr
  obtain ⟨response, hresponse, hlocation, _⟩ := h.response
  obtain ⟨response', location, u, hresponse', _, hsome, _⟩ := hr
  rw [hresponse] at hresponse'
  cases hresponse'
  rw [hlocation, Message.reading, hnone] at hsome
  cases hsome

end Reply

/-! ## Sends that end with a message -/

namespace Exchange

/-- The first reply answers the request that an exchange begins with. -/
theorem first_hop {u : Url} (hscheme : canConnect u.scheme = true)
    (hsendable : isSendable (origin u) = true) (body : String) (q : Reply) (more : List Reply) :
    Hop.mk (Request.post u body) q ∈ hops (post u body (q :: more)).requests (q :: more) := by
  have hne : (post u body (q :: more)).requests ≠ [] := by
    rw [Ne, post_requests_eq_nil]
    simp [hscheme, hsendable]
  have hhead := (post_orderly u body (q :: more)).head
  cases hrequests : (post u body (q :: more)).requests with
  | nil => exact absurd hrequests hne
  | cons r requests =>
    rw [hrequests, hops_cons] at hhead
    obtain rfl : r = Request.post u body := hhead _ rfl
    exact List.mem_cons_self

/-- A message that is taken and leads nowhere is what the exchange ends with. -/
theorem Orderly.concluded {e : Exchange} {first : Url} {r : Request} {found : List Reply}
    (ho : e.Orderly first r found) {hop : Hop} (hhop : hop ∈ hops e.requests found) {m : Message}
    (hq : hop.reply.Carries m) (hn : ∀ next, ¬ hop.Redirects next) :
    e.result = .ok ⟨m.status, m.text⟩ := by
  obtain ⟨i, hi, rfl⟩ := List.mem_iff_getElem.mp hhop
  obtain ⟨response, hresponse, _, houtcome⟩ := hq.response
  rw [(ho.answered hi hresponse hn).2, houtcome]

end Exchange

end Http

namespace Prober

/-- Requests of the operation get as far as the peer: the client connects under the scheme, and a
request line can carry the URL. -/
def Reaches (p : Prober) (op : Operation) : Prop :=
  Http.canConnect p.baseUrl.scheme = true ∧
    Http.isSendable (Http.Exchange.origin (p.endpoint op)) = true

variable [Text.OtherCharsets]

/-- The message ends the send: it is the first that is answered, or one that is taken later, and it
is no redirect. -/
inductive Concludes (p : Prober) (op : Operation) (payload : Payload) (found : List Http.Reply)
    (m : Http.Message) : Prop
  | first (q : Http.Reply) (more : List Http.Reply) (text : String) : found = q :: more →
      p.Reaches op → payload.encode = .ok text → q.Carries m →
      (∀ next, ¬ Http.Hop.Redirects ⟨Http.Request.post (p.endpoint op) text, q⟩ next) →
      Concludes p op payload found m
  | taken (hop : Http.Hop) : hop ∈ Http.hops (p.send op payload found).2.requests found →
      hop.reply.Carries m → (∀ next, ¬ hop.Redirects next) → Concludes p op payload found m

/-- The outcome of a send is the message that ends it. -/
theorem Concludes.send {p : Prober} {op : Operation} {payload : Payload} {found : List Http.Reply}
    {m : Http.Message} (h : p.Concludes op payload found m) :
    (p.send op payload found).1 = .ok ⟨m.status, m.text⟩ := by
  suffices htaken : ∃ hop ∈ Http.hops (p.send op payload found).2.requests found,
      hop.reply.Carries m ∧ ∀ next, ¬ hop.Redirects next by
    obtain ⟨hop, hhop, hq, hn⟩ := htaken
    cases hencode : payload.encode with
    | error e =>
      rw [p.send_of_error op found hencode] at hhop
      cases hhop
    | ok text =>
      rw [p.send_of_ok op found hencode] at hhop ⊢
      rw [(Http.Exchange.post_orderly (p.endpoint op) text found).concluded hhop hq hn]
      rfl
  cases h with
  | first q more text hfound hreaches hencode hq hn =>
    refine ⟨_, ?_, hq, hn⟩
    rw [hfound, p.send_of_ok op _ hencode]
    exact Http.Exchange.first_hop (u := p.endpoint op) hreaches.1 hreaches.2 text q more
  | taken hop hhop hq hn => exact ⟨hop, hhop, hq, hn⟩

end Prober

end SmokeProbe
