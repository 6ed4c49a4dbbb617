import SmokeProbe.Proofs.RequestHeaders
import SmokeProbe.Proofs.SendHops

/-!
# Redirect chains of a send

Along a chain every URL is the location of the reply before it, completed from the URL before it,
and the referer names that one. The posted text is repeated as long as every redirect asks for it;
after the first one that does not, the chain asks with plain requests to its end. No URL that leaves
the prober has user information or a fragment.
-/
namespace SmokeProbe

/-- A URL without user information and fragment. -/
structure Url.Bare (u : Url) : Prop where
  username : u.username = ""
  password : u.password = none
  fragment : u.fragment = none

namespace Http

/-- The status of the response that a reply is. -/
def Reply.status? (q : Reply) : Option Nat := q.response.toOption.map Response.status

/-- The reply asks for the same request again. -/
def Reply.Repeats (q : Reply) : Prop := q.status? = some 307 ∨ q.status? = some 308

theorem Reply.status?_of_response {q : Reply} {response : Response} (h : q.response = .ok response) :
    q.status? = some response.status := by
  rw [status?, h]
  rfl

theorem Reply.repeats_iff {q : Reply} {response : Response} (h : q.response = .ok response) :
    q.Repeats ↔ response.keepsVerb = true := by
  unfold Reply.Repeats Response.keepsVerb
  rw [status?_of_response h, Bool.or_eq_true, beq_iff_eq, beq_iff_eq, Option.some.injEq,
    Option.some.injEq]

/-- A chain of redirects from a posted text on. -/
structure RedirectChain (target : Url) (text : String) (chain : List Hop) : Prop where
  start : ∀ h ∈ chain.head?,
    h.request.url = target ∧ h.request.referer = none ∧ h.request.Posts text
  step : ∀ i (hi : i + 1 < chain.length), ∃ response location u,
    chain[i].reply.response = .ok response ∧ response.status ∈ [301, 302, 303, 307, 308] ∧
    response.location? = some location ∧ Url.join chain[i].request.url location = .ok u ∧
    chain[i + 1].request.url = u.withoutFragment.withoutUserinfo ∧
    chain[i + 1].request.referer = some chain[i].request.url
  posts : ∀ i (hi : i < chain.length),
    chain[i].request.Posts text ↔ ∀ h ∈ chain.take i, h.reply.Repeats
  gets : ∀ i (hi : i < chain.length), ¬ chain[i].request.Posts text → chain[i].request.Gets
  bare : ∀ h ∈ chain, h.request.url.Bare ∧ ∀ u ∈ h.request.referer, u.Bare

section
variable {chain : List Hop} {first : Request} {text : String}
  (hchain : chain.IsChain fun a b => a.Redirects b.request)
  (hhead : ∀ h ∈ chain.head?, h.request = first)
include hchain hhead

theorem chain_bare (hurl : first.url.Bare) (href : first.referer = none) :
    ∀ h ∈ chain, h.request.url.Bare ∧ ∀ u ∈ h.request.referer, u.Bare := by
  apply List.IsChain.induction (fun h : Hop => h.request.url.Bare ∧ ∀ u ∈ h.request.referer, u.Bare)
    chain hchain
  · rintro a b ⟨response, location, u, _, _, _, _, _, hb⟩ ⟨ha, _⟩
    rw [hb]
    refine ⟨⟨rfl, rfl, rfl⟩, ?_⟩
    rintro v ⟨⟩
    exact ⟨rfl, rfl, ha.fragment⟩
  · intro hne
    rw [hhead _ (List.head?_eq_some_head hne)]
    refine ⟨hurl, ?_⟩
    simp [href]

/-- Which request of a chain posts: the text is repeated while every redirect asks for it. -/
theorem chain_verb (hverb : first.verb = .post text) (i : Nat) (hi : i < chain.length) :
    (∀ h ∈ chain.take i, h.reply.Repeats) ∧ chain[i].request.verb = .post text ∨
      (¬ ∀ h ∈ chain.take i, h.reply.Repeats) ∧ chain[i].request.verb = .get := by
  rw [← hverb]
  apply chain_carries Request.verb .get (fun a => a.reply.Repeats) hchain hhead
  · rintro a next ⟨response, location, u, hq, _, _, _, _, rfl⟩ hr
    exact if_pos ((Reply.repeats_iff hq).mp hr)
  · rintro a next ⟨response, location, u, hq, _, _, _, _, rfl⟩ hr
    exact if_neg (fun hk => hr ((Reply.repeats_iff hq).mpr hk))

/-- Redirects that start from a posted text make a redirect chain. -/
theorem redirectChain_of_isChain (hverb : first.verb = .post text) (hurl : first.url.Bare)
    (href : first.referer = none) : RedirectChain first.url text chain := by
  have hbare := chain_bare hchain hhead hurl href
  refine ⟨?_, ?_, ?_, ?_, hbare⟩
  · intro h hh
    rw [hhead h hh]
    exact ⟨rfl, href, Request.posts_of_verb hverb⟩
  · intro i hi
    obtain ⟨response, location, u, hq, hs, hl, hj, _, hnext⟩ := hchain.getElem i hi
    refine ⟨response, location, u, hq, hs, hl, hj, by rw [hnext]; rfl, ?_⟩
    have hb := (hbare _ (List.getElem_mem (by omega : i < chain.length))).1
    rw [hnext]
    exact congrArg some (Url.withoutUserinfo_eq_self hb.username hb.password)
  · intro i hi
    rcases chain_verb hchain hhead hverb i hi with ⟨hall, hv⟩ | ⟨hall, hv⟩
    · exact ⟨fun _ => hall, fun _ => Request.posts_of_verb hv⟩
    · exact ⟨fun h => absurd h (Request.not_posts_of_gets (Request.gets_of_verb hv)),
        fun h => absurd h hall⟩
  · intro i hi hn
    rcases chain_verb hchain hhead hverb i hi with ⟨_, hv⟩ | ⟨_, hv⟩
    · exact absurd (Request.posts_of_verb hv) hn
    · exact Request.gets_of_verb hv

end

end Http

namespace Prober
variable (p : Prober) (op : Operation) {payload : Payload} {body : String}
  (found : List Http.Reply)

/-- The requests of a send are a redirect chain from the endpoint of its operation on, each answered
by the reply in its place. There is a request unless no reply is left or the endpoint is too long or
has a host that no request can name. -/
theorem send_redirectChain [Text.OtherCharsets] (hscheme : p.baseUrl.scheme = "http")
    (htext : p.baseUrl.TextUserinfo) (hbody : payload.encode = .ok body) :
    let trace := (p.send op payload found).2
    let chain := Http.hops trace.requests found
    chain.map Http.Hop.request = trace.requests ∧
      chain.map Http.Hop.reply ++ trace.left = found ∧
      (chain = [] ↔ found = [] ∨ Http.isSendable (p.endpoint op).withoutUserinfo = false) ∧
      Http.RedirectChain (p.endpoint op).withoutUserinfo.withoutFragment body chain := by
  intro trace chain
  have horigin := Http.Exchange.origin_eq (p.endpoint_textUserinfo op htext)
  have hurl := Http.Request.post_url (p.endpoint_textUserinfo op htext) body
  have ho := Http.Exchange.post_orderly (p.endpoint op) body found
  have hidle := Http.Exchange.post_requests_eq_nil (p.endpoint op) body found
  have htrace : trace.requests = (Http.Exchange.post (p.endpoint op) body found).requests := by
    rw [show trace = _ from congrArg Prod.snd (p.send_of_ok op found hbody)]
  have hleft : trace.left = (Http.Exchange.post (p.endpoint op) body found).left := by
    rw [show trace = _ from congrArg Prod.snd (p.send_of_ok op found hbody)]
  have hchain : chain =
      Http.hops (Http.Exchange.post (p.endpoint op) body found).requests found := by
    rw [← htrace]
  rw [hchain, htrace, hleft]
  refine ⟨ho.requests_eq, ho.replies_eq, ?_, ?_⟩
  · rw [ho.hops_eq_nil, hidle, horigin, endpoint_scheme, hscheme]
    simp [Http.canConnect]
  · rw [← hurl]
    exact Http.redirectChain_of_isChain ho.chain ho.head rfl (hurl ▸ ⟨rfl, rfl, rfl⟩) rfl

/-- A text that is repeated once, then dropped for good, on the way to another server and back to
a redirect that would have repeated it. -/
theorem send_redirectChain_mixed :
    let p : Prober := ⟨{
      scheme := "http", username := "a", password := some "b", host := some (.name "h")
      path := .segments [""], fragment := some "f" }⟩
    let found : List Http.Reply := [
      .complete 307 [("location", "/x?y#z")] none [],
      .complete 302 [("location", "//u@[::1]/")] none [],
      .complete 307 [("location", "w")] none [],
      .complete 200 [] none [111]]
    let trace := (p.send .deploy (.json .null) found).2
    (p.baseUrl.scheme = "http" ∧ p.baseUrl.TextUserinfo ∧
        (Payload.json .null).encode = .ok "null") ∧
      trace.requests.map Http.Request.method = ["POST", "POST", "GET", "GET"] ∧
      Http.RedirectChain (p.endpoint .deploy).withoutUserinfo.withoutFragment "null"
        (Http.hops trace.requests found) := by
  intro p found trace
  have htext : p.baseUrl.TextUserinfo := by
    refine ⟨by decide +kernel, ?_⟩
    rintro password ⟨⟩
    decide +kernel
  have hbody : (Payload.json .null).encode = .ok "null" := rfl
  have hchain := send_redirectChain p .deploy found rfl htext hbody
  exact ⟨⟨rfl, htext, hbody⟩, by decide +kernel, hchain.2.2.2⟩

end Prober

end SmokeProbe
