import Mathlib.Data.List.Chain
import SmokeProbe.Http.Exchange

/-!
# Exchanges, hop by hop

A hop is a request with the reply that answered it. An exchange takes its replies from the front of
those it finds, one for each request; every hop but the last is a redirect to the next one, and the
last one decides how the exchange ends. All that holds along a chain of redirects follows from these
statements, without another look at how the chain is followed.
-/
namespace SmokeProbe.Http

/-- A request with the reply that answered it. -/
structure Hop where
  request : Request
  reply : Reply

/-- Requests with the replies that stand in the same places. -/
def hops (requests : List Request) (replies : List Reply) : List Hop :=
  List.zipWith Hop.mk requests replies

@[simp] theorem hops_nil (replies : List Reply) : hops [] replies = [] := rfl

@[simp] theorem hops_cons (r : Request) (requests : List Request) (q : Reply)
    (replies : List Reply) :
    hops (r :: requests) (q :: replies) = ⟨r, q⟩ :: hops requests replies := rfl

/-- The reply redirects the request to another one: its status is one of five, and its location,
completed from the URL of the request, is a URL that can be requested. -/
def Hop.Redirects (h : Hop) (next : Request) : Prop :=
  ∃ response location u,
    h.reply.response = .ok response ∧ response.status ∈ [301, 302, 303, 307, 308] ∧
    response.location? = some location ∧ Url.join h.request.url location = .ok u ∧
    isSendable u = true ∧
    next = h.request.following u.withoutFragment.withoutUserinfo response.keepsVerb

theorem target?_eq_some {r : Request} {response : Response} {v : Url} :
    target? r response = some v ↔
      response.status ∈ [301, 302, 303, 307, 308] ∧ ∃ location u,
        response.location? = some location ∧ Url.join r.url location = .ok u ∧
        isSendable u = true ∧ v = u.withoutFragment.withoutUserinfo := by
  have hstatus : response.isRedirect = true ↔ response.status ∈ [301, 302, 303, 307, 308] := by
    unfold Response.isRedirect
    rw [List.contains_iff_mem]
  unfold target?
  rw [← hstatus]
  by_cases hr : response.isRedirect = true
  · cases hl : response.location? with
    | none => simp [hr]
    | some location =>
      cases hj : Url.join r.url location with
      | error fault => simp [hr, hj, Except.toOption]
      | ok u =>
        by_cases hs : isSendable u = true
        · have hc : u.withoutFragment.withoutUserinfo = v ↔ v = u.withoutFragment.withoutUserinfo :=
            eq_comm
          simp [hr, hj, hs, Except.toOption, hc]
        · simp [hr, hj, hs, Except.toOption]
  · simp [hr]

theorem Hop.redirects_iff {h : Hop} {next : Request} :
    h.Redirects next ↔ ∃ response u, h.reply.response = .ok response ∧
      target? h.request response = some u ∧
      next = h.request.following u response.keepsVerb := by
  constructor
  · rintro ⟨response, location, u, hq, hs, hl, hj, hu, rfl⟩
    exact ⟨response, _, hq, target?_eq_some.mpr ⟨hs, location, u, hl, hj, hu, rfl⟩, rfl⟩
  · rintro ⟨response, v, hq, ht, rfl⟩
    obtain ⟨hs, location, u, hl, hj, hu, rfl⟩ := target?_eq_some.mp ht
    exact ⟨response, location, u, hq, hs, hl, hj, hu, rfl⟩

theorem Hop.response_of_redirects {h : Hop} {next : Request} (hr : h.Redirects next) :
    ∃ response, h.reply.response = .ok response := by
  obtain ⟨response, _, _, hq, _⟩ := hr
  exact ⟨response, hq⟩

theorem Hop.Redirects.unique {h : Hop} {a b : Request} (ha : h.Redirects a)
    (hb : h.Redirects b) : a = b := by
  obtain ⟨response, u, hq, ht, rfl⟩ := redirects_iff.mp ha
  obtain ⟨response', u', hq', ht', rfl⟩ := redirects_iff.mp hb
  rw [hq] at hq'
  cases hq'
  rw [ht] at ht'
  cases ht'
  rfl

/-- What each redirect of a chain either hands on or replaces by one and the same value. It is that
of the first request as long as it was handed on each time, and the other value ever after. -/
theorem chain_carries {α : Type} (carried : Request → α) (dropped : α) (keeps : Hop → Prop)
    {chain : List Hop} {first : Request} (hchain : chain.IsChain fun a b => a.Redirects b.request)
    (hhead : ∀ h ∈ chain.head?, h.request = first)
    (hkeep : ∀ a next, a.Redirects next → keeps a → carried next = carried a.request)
    (hdrop : ∀ a next, a.Redirects next → ¬ keeps a → carried next = dropped)
    (i : Nat) (hi : i < chain.length) :
    (∀ h ∈ chain.take i, keeps h) ∧ carried chain[i].request = carried first ∨
      (¬ ∀ h ∈ chain.take i, keeps h) ∧ carried chain[i].request = dropped := by
  induction i with
  | zero =>
    left
    rw [hhead chain[0] (by rw [List.head?_eq_getElem?]; simp)]
    exact ⟨by simp, rfl⟩
  | succ i ih =>
    have hr := hchain.getElem i hi
    have hlast : i < chain.length := by omega
    rw [List.take_succ_eq_append_getElem hlast, List.forall_mem_append, List.forall_mem_singleton]
    by_cases hk : keeps chain[i]
    · rw [hkeep _ _ hr hk]
      simpa only [hk, and_true] using ih hlast
    · right
      exact ⟨fun h => hk h.2, hdrop _ _ hr hk⟩

theorem isWebScheme_of_canConnect {scheme : String} (h : canConnect scheme = true) :
    isWebScheme scheme = true := by
  rw [canConnect] at h
  rw [isWebScheme, h, Bool.true_or]

variable [Text.OtherCharsets]

/-- How the last hop of an exchange ends it. `full` says that no further redirect may be followed,
and `left` are the replies that the exchange leaves. -/
inductive Ending (first : Url) (full : Prop) (left : List Reply) (last : Hop) :
    Except Failure Outcome → Prop
  | unread (fault : HeadFault) : last.reply.response = .error fault →
      Ending first full left last (.error (.sending first (.reading fault)))
  | answered (response : Response) : last.reply.response = .ok response →
      (∀ next, ¬ last.Redirects next) → Ending first full left last (outcome response)
  | exhausted (next : Request) : last.Redirects next → full →
      Ending first full left last (.error (.redirecting last.request.url))
  | unanswered (next : Request) : last.Redirects next → ¬ full → left = [] →
      Ending first full left last (.error (.sending first .unreachable))
  | notPlain (next : Request) : last.Redirects next → ¬ full → canConnect next.url.scheme = false →
      Ending first full left last (.error (.sending first .notPlain))
  | foreign (next : Request) : last.Redirects next → ¬ full → canConnect next.url.scheme = false →
      Ending first full left last (.error (.schemeNotAllowed next.url))

namespace Ending
variable {first : Url} {full : Prop} {left : List Reply} {last : Hop}
  {result : Except Failure Outcome} (h : Ending first full left last result)
include h

theorem of_unread {fault : HeadFault} (hq : last.reply.response = .error fault) :
    result = .error (.sending first (.reading fault)) := by
  have hn : ∀ next, ¬ last.Redirects next := by
    intro next hr
    obtain ⟨response, hq'⟩ := Hop.response_of_redirects hr
    rw [hq] at hq'
    cases hq'
  cases h with
  | unread fault' hq' =>
    rw [hq] at hq'
    cases hq'
    rfl
  | answered response hq' =>
    rw [hq] at hq'
    cases hq'
  | exhausted next hr | unanswered next hr | notPlain next hr | foreign next hr =>
    exact absurd hr (hn next)

theorem of_answered {response : Response} (hq : last.reply.response = .ok response)
    (hn : ∀ next, ¬ last.Redirects next) : result = outcome response := by
  cases h with
  | unread fault hq' =>
    rw [hq] at hq'
    cases hq'
  | answered response' hq' =>
    rw [hq] at hq'
    cases hq'
    rfl
  | exhausted next hr | unanswered next hr | notPlain next hr | foreign next hr =>
    exact absurd hr (hn next)

/-- A last redirect is not followed: it is one too many, or nothing is left that it could lead to.
-/
theorem of_redirects {next : Request} (hr : last.Redirects next) :
    full ∧ result = .error (.redirecting last.request.url) ∨
      ¬ full ∧ (left = [] ∨ canConnect next.url.scheme = false) := by
  cases h with
  | unread fault hq =>
    obtain ⟨response, hq'⟩ := Hop.response_of_redirects hr
    rw [hq] at hq'
    cases hq'
  | answered response hq hn => exact absurd hr (hn next)
  | exhausted _ _ hf => exact .inl ⟨hf, rfl⟩
  | unanswered _ _ hf hleft => exact .inr ⟨hf, .inl hleft⟩
  | notPlain next' hr' hf hs | foreign next' hr' hf hs =>
    rw [hr'.unique hr] at hs
    exact .inr ⟨hf, .inr hs⟩

/-- An outcome is that of a response which leads nowhere. -/
theorem of_ok {made : Outcome} (hok : result = .ok made) :
    ∃ response, last.reply.response = .ok response ∧ outcome response = .ok made ∧
      ∀ next, ¬ last.Redirects next := by
  cases h with
  | answered response hq hn => exact ⟨response, hq, hok, hn⟩
  | unread | exhausted | unanswered | notPlain | foreign => cases hok

theorem of_redirecting {u : Url} (hu : result = .error (.redirecting u)) :
    full ∧ ∃ next, last.Redirects next := by
  cases h with
  | answered response =>
    unfold outcome at hu
    cases ht : response.text with
    | error fault => simp [ht] at hu
    | ok body => simp [ht] at hu
  | exhausted next hr hf => exact ⟨hf, next, hr⟩
  | unread | unanswered | notPlain | foreign => cases hu

end Ending

theorem outcome_status {response : Response} {made : Outcome} (h : outcome response = .ok made) :
    response.status = made.status := by
  unfold outcome at h
  cases ht : response.text with
  | error fault => simp [ht] at h
  | ok body =>
    rw [ht] at h
    cases h
    rfl

namespace Exchange
variable (first : Url) (n : Nat) (r : Request) (qs : List Reply)

/-- Each recorded request took a reply. -/
theorem run_requests :
    (hops (run first n r qs).requests qs).map Hop.request = (run first n r qs).requests := by
  fun_induction run first n r qs
  case case6 ih =>
    rw [hops_cons, List.map_cons, ih]
  all_goals simp

/-- The replies that an exchange takes stand in front of those that it leaves. -/
theorem run_replies :
    (hops (run first n r qs).requests qs).map Hop.reply ++ (run first n r qs).left = qs := by
  fun_induction run first n r qs
  case case6 ih =>
    rw [hops_cons, List.map_cons, List.cons_append, ih]
  all_goals simp

/-- One request, and one more for each redirect that may be followed. -/
theorem run_length_le : (run first n r qs).requests.length ≤ n + 1 := by
  fun_induction run first n r qs
  case case6 ih =>
    rw [List.length_cons]
    exact Nat.succ_le_succ ih
  all_goals simp

/-- An exchange that sends anything sends its own request first. -/
theorem run_head : ∀ h ∈ (hops (run first n r qs).requests qs).head?, h.request = r := by
  fun_induction run first n r qs
  all_goals simp

/-- Nothing is sent only if nothing can be: the client does not connect, for want of TLS, or no peer
is left. -/
theorem run_idle (h : (run first n r qs).requests = []) :
    (canConnect r.url.scheme = false ∧ run first n r qs = ⟨.error (.sending first .notPlain), [], qs⟩) ∨
      qs = [] ∧ run first n r qs = ⟨.error (.sending first .unreachable), [], []⟩ := by
  unfold run at h ⊢
  by_cases hs : canConnect r.url.scheme = false
  · left
    rw [if_pos hs]
    exact ⟨hs, rfl⟩
  · right
    rw [if_neg hs] at h ⊢
    cases qs with
    | nil => exact ⟨rfl, rfl⟩
    | cons q qs =>
      exfalso
      revert h
      simp only
      split
      · simp
      · split
        · simp
        · simp
        · split <;> simp

/-- Every hop but the last is a redirect to the next one. -/
theorem run_chain :
    (hops (run first n r qs).requests qs).IsChain fun a b => a.Redirects b.request := by
  fun_induction run first n r qs
  case case6 request _ reply left response hq next redirects ht _ rest ih =>
    rw [hops_cons, List.isChain_cons]
    refine ⟨?_, ih⟩
    intro b hb
    rw [run_head _ _ _ _ b hb]
    exact Hop.redirects_iff.mpr ⟨response, next, hq, ht, rfl⟩
  all_goals simp

/-- The last hop decides the result. -/
theorem run_ending :
    ∀ last ∈ (hops (run first n r qs).requests qs).getLast?,
      Ending first ((run first n r qs).requests.length = n + 1) (run first n r qs).left last
        (run first n r qs).result := by
  fun_induction run first n r qs
  case case3 fault hq => simpa using .unread fault hq
  case case4 request _ reply left response hq ht =>
    have hn : ∀ next, ¬ Hop.Redirects ⟨request, reply⟩ next := by
      intro next hr
      obtain ⟨response', u, hq', ht', _⟩ := Hop.redirects_iff.mp hr
      rw [hq] at hq'
      cases hq'
      rw [ht] at ht'
      cases ht'
    simpa using .answered response hq hn
  case case5 request _ reply left response hq u ht =>
    have hr : Hop.Redirects ⟨request, reply⟩ (request.following u response.keepsVerb) :=
      Hop.redirects_iff.mpr ⟨response, u, hq, ht, rfl⟩
    simpa using .exhausted _ hr trivial
  case case6 request _ reply left response hq next redirects ht _ rest ih =>
    have hr : Hop.Redirects ⟨request, reply⟩ (request.following next response.keepsVerb) :=
      Hop.redirects_iff.mpr ⟨response, next, hq, ht, rfl⟩
    rw [hops_cons, List.length_cons]
    by_cases hrest : rest.requests = []
    · -- Nothing was sent after this hop, so it is the last one.
      rw [hrest, hops_nil]
      rcases run_idle _ _ _ _ hrest with ⟨hs, he⟩ | ⟨rfl, he⟩
      · simp only [rest, he]
        simpa using .notPlain _ hr id hs
      · simp only [rest, he]
        simpa using .unanswered _ hr id rfl
    · have hne : hops rest.requests left ≠ [] := by
        intro hnil
        exact hrest (by rw [← run_requests, hnil, List.map_nil])
      rw [List.getLast?_cons_of_ne_nil hne, Nat.succ_eq_add_one, Nat.add_right_cancel_iff]
      exact ih
  case case7 request _ reply left response hq next redirects ht hw =>
    have hr : Hop.Redirects ⟨request, reply⟩ (request.following next response.keepsVerb) :=
      Hop.redirects_iff.mpr ⟨response, next, hq, ht, rfl⟩
    have hs : canConnect (request.following next response.keepsVerb).url.scheme = false := by
      rw [Bool.eq_false_iff]
      exact fun hs => hw (isWebScheme_of_canConnect hs)
    simpa using .foreign _ hr id hs
  all_goals simp

/-- The URL under which an exchange is known: that of its start, without user information that went
into the credentials. -/
def origin (u : Url) : Url := if (Credentials.ofUrl? u).isSome then u.withoutUserinfo else u

theorem post_eq (u : Url) (body : String) (found : List Reply) :
    post u body found =
      if isSendable (origin u) then run (origin u) maxRedirects (Request.post u body) found
      else ⟨.error (.unsendable (origin u)), [], found⟩ := by
  unfold post origin
  simp only [Request.post, Option.isSome_map]

/-- What an exchange does with the replies that it finds. -/
structure Orderly (e : Exchange) (first : Url) (r : Request) (found : List Reply) : Prop where
  requests_eq : (hops e.requests found).map Hop.request = e.requests
  replies_eq : (hops e.requests found).map Hop.reply ++ e.left = found
  length_le : e.requests.length ≤ maxRedirects + 1
  head : ∀ h ∈ (hops e.requests found).head?, h.request = r
  chain : (hops e.requests found).IsChain fun a b => a.Redirects b.request
  ending : ∀ last ∈ (hops e.requests found).getLast?,
    Ending first (e.requests.length = maxRedirects + 1) e.left last e.result
  idle : e.requests = [] → e.result = .error (.unsendable first) ∨
    e.result = .error (.sending first .notPlain) ∨ e.result = .error (.sending first .unreachable)

theorem Orderly.hops_eq_nil {e : Exchange} {first : Url} {r : Request} {found : List Reply}
    (h : e.Orderly first r found) : hops e.requests found = [] ↔ e.requests = [] := by
  rw [← List.map_eq_nil_iff (f := Hop.request), h.requests_eq]

theorem Orderly.hops_length {e : Exchange} {first : Url} {r : Request} {found : List Reply}
    (h : e.Orderly first r found) : (hops e.requests found).length = e.requests.length := by
  rw [← List.length_map Hop.request, h.requests_eq]

theorem post_orderly (u : Url) (body : String) (found : List Reply) :
    (post u body found).Orderly (origin u) (Request.post u body) found := by
  rw [post_eq]
  split_ifs
  · refine ⟨run_requests _ _ _ _, run_replies _ _ _ _, run_length_le _ _ _ _, run_head _ _ _ _,
      run_chain _ _ _ _, run_ending _ _ _ _, ?_⟩
    intro hnil
    rcases run_idle _ _ _ _ hnil with ⟨_, he⟩ | ⟨_, he⟩
    · rw [he]
      exact .inr (.inl rfl)
    · rw [he]
      exact .inr (.inr rfl)
  · exact ⟨rfl, rfl, Nat.zero_le _, by simp, by simp, by simp, fun _ => .inl rfl⟩

/-- An exchange takes no reply only if there is none or its request cannot be made at all: the
client, which has no TLS, does not connect under its scheme, or no request line can carry its URL.
-/
theorem post_requests_eq_nil (u : Url) (body : String) (found : List Reply) :
    (post u body found).requests = [] ↔
      found = [] ∨ canConnect u.scheme = false ∨ isSendable (origin u) = false := by
  have hscheme : (Request.post u body).url.scheme = u.scheme := by
    unfold Request.post
    simp only
    split_ifs <;> rfl
  rw [post_eq]
  by_cases hs : isSendable (origin u) = true
  · rw [if_pos hs]
    constructor
    · intro h
      rcases run_idle _ _ _ _ h with ⟨hn, _⟩ | ⟨hf, _⟩
      · exact .inr (.inl (hscheme ▸ hn))
      · exact .inl hf
    · rintro (rfl | hn | hf)
      · unfold run
        split_ifs <;> rfl
      · rw [← hscheme] at hn
        unfold run
        rw [if_pos hn]
      · rw [hs] at hf
        cases hf
  · rw [if_neg hs]
    simp [hs]

end Exchange

end SmokeProbe.Http
