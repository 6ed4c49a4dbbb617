import Mathlib.Logic.Relation
import SmokeProbe.Proofs.CanonicalValues
import SmokeProbe.Proofs.RequestRoundTrip

/-!
# The canonical encoding of requests

A text that is a request can be rewritten in many ways and stays the same request: blanks change,
characters are spelled in another way, neighbours with different keys change places, and inside the
arguments a member is added in front of another one with its key. What a request is encoded as is
none of the writer's choice: its fields stand in the order of their declaration and the keys of
every object inside its arguments ascend.
-/
namespace SmokeProbe

namespace Json.Tree

/-! ## Records that are rewritten -/

/-- Whatever record the one text is, the other is as well. -/
def KeepsRecord (shape : Shape) (t t' : Tree) : Prop :=
  ∀ vs, t.readRecord shape = .ok vs → t'.readRecord shape = .ok vs

theorem Keeps.readField {t t' : Tree} (h : Keeps t t') {kind : FieldKind} {v : Json}
    (hv : t.readField kind = .ok v) : t'.readField kind = .ok v := by
  cases kind with
  | any => exact h.read fieldRoom v hv
  | text =>
    obtain ⟨s, hs, ht⟩ := readField_text_eq_ok.mp hv
    exact readField_text_eq_ok.mpr ⟨s, hs, h.text s ht⟩

theorem readPositions_keeps {shape : Shape} {items items' : List (Spaced Tree)}
    (h : List.Forall₂ KeepsItem items items') {fields : List (String × FieldKind)}
    {position : Nat} {vs : List Json} (hvs : readPositions shape fields position items = .ok vs) :
    readPositions shape fields position items' = .ok vs := by
  induction h generalizing fields position vs with
  | nil => exact hvs
  | cons hi _ ih =>
    cases fields with
    | nil => cases hvs
    | cons field fields =>
      rw [readPositions, bind_eq_ok] at hvs
      obtain ⟨v, hv, hlater⟩ := hvs
      obtain ⟨ws, hws, h⟩ := bind_eq_ok.mp hlater
      rw [readPositions, hi.readField hv, ok_bind, ih hws]
      exact h

theorem named_keeps {members members' : List Member}
    (h : List.Forall₂ KeepsMember members members') (key : String) :
    List.Forall₂ Keeps (named key members) (named key members') := by
  induction h with
  | nil => exact .nil
  | cons hm _ ih =>
    rename_i m m' members members' _
    by_cases hkey : key? m = some key
    · rw [named_cons_self hkey, named_cons_self (hm.1.trans hkey)]
      exact .cons hm.2 ih
    · rw [named_cons_other hkey, named_cons_other (by rwa [hm.1])]
      exact ih

theorem named_swapped {m n : Member} (hne : key? m ≠ key? n) (front back : List Member)
    (key : String) :
    named key (front ++ n :: m :: back) = named key (front ++ m :: n :: back) := by
  by_cases hm : key? m = some key
  · have hn : key? n ≠ some key := fun hn => hne (hm.trans hn.symm)
    simp [named, hm, hn]
  · simp [named, List.filter_cons, hm]

section
variable {shape : Shape} (inner inner' : Gap)

theorem keepsRecord_array {items items' : List (Spaced Tree)}
    (h : List.Forall₂ KeepsItem items items') :
    KeepsRecord shape (array items inner) (array items' inner') :=
  fun _ hvs => readPositions_keeps h hvs

variable (hnodup : (shape.fields.map Prod.fst).Nodup)
include hnodup

theorem keepsRecord_object {members members' : List Member}
    (h : List.Forall₂ KeepsMember members members') :
    KeepsRecord shape (object members inner) (object members' inner') := by
  intro vs hvs
  obtain ⟨hkeys, hfields⟩ := (readRecord_object hnodup).mp hvs
  refine (readRecord_object hnodup).mpr ⟨fun m' hm' => ?_, hfields.imp fun field v hsettles => ?_⟩
  · obtain ⟨m, hm, hkey, -⟩ := exists_of_mem_right h hm'
    rw [hkey]
    exact hkeys m hm
  · rcases hsettles with ⟨hnone, -⟩ | ⟨hnone, t, hnamed, hv⟩
    · cases hnone
    · have hsame := named_keeps h field.1
      rw [hnamed] at hsame
      obtain ⟨t', ts, hkeeps, hts, hnamed'⟩ := List.forall₂_cons_left_iff.mp hsame
      cases hts
      exact .inr ⟨hnone, t', hnamed', hkeeps.readField hv⟩

theorem Respelled.keepsRecord {t t' : Tree} (h : Respelled t t') : KeepsRecord shape t t' := by
  cases h with
  | @string letters letters' _ =>
    intro vs hvs
    have hrefused : (Tree.string letters).refuse shape.expected = .ok vs := hvs
    exact absurd hrefused refuse_ne_ok
  | key front back before after inner value h =>
    exact keepsRecord_object inner inner hnodup
      (forall₂_replaced KeepsMember.refl (keepsMember_respelled h before after value) front back)

theorem Swapped.keepsRecord {t t' : Tree} (h : Swapped t t') : KeepsRecord shape t t' := by
  obtain ⟨front, back, m, n, inner, hne⟩ := h
  intro vs hvs
  have hkeys := ((readRecord_object hnodup).mp hvs).1
  have hperm : (front ++ n :: m :: back).Perm (front ++ m :: n :: back) :=
    (List.Perm.swap m n back).append_left front
  have hkeys' : ProperKeys (front ++ n :: m :: back) := fun a ha => hkeys a (hperm.mem_iff.mp ha)
  refine (readRecord_order hnodup hkeys hkeys' (fun field _ => ?_) vs).mp hvs
  rw [named_swapped hne]

/-- What keeps values and keeps records at the root keeps records at any depth. -/
theorem Inside.keepsRecord {R : Tree → Tree → Prop} (hR : ∀ t t', R t t' → Keeps t t')
    (hroot : ∀ t t', R t t' → KeepsRecord shape t t') {t t' : Tree} (h : Inside R t t') :
    KeepsRecord shape t t' := by
  cases h with
  | here h => exact hroot _ _ h
  | @item t t' front back before after inner h =>
    have hitem : KeepsItem ⟨before, t, after⟩ ⟨before, t', after⟩ := h.keeps hR
    exact keepsRecord_array inner inner (forall₂_replaced KeepsItem.refl hitem front back)
  | @value t t' front back key before after inner h =>
    have hmember : KeepsMember (key, ⟨before, t, after⟩) (key, ⟨before, t', after⟩) :=
      ⟨rfl, h.keeps hR⟩
    exact keepsRecord_object inner inner hnodup
      (forall₂_replaced KeepsMember.refl hmember front back)

theorem keepsRecord_bare (t : Tree) :
    KeepsRecord shape t t.bare ∧ KeepsRecord shape t.bare t := by
  cases t with
  | null | bool | number | string => exact ⟨fun _ => id, fun _ => id⟩
  | array items inner =>
    obtain ⟨h, h'⟩ := keepsItems_bare fun i (_ : i ∈ items) => saysSame_bare i.token
    exact ⟨keepsRecord_array inner .none h, keepsRecord_array .none inner h'⟩
  | object members inner =>
    obtain ⟨h, h'⟩ := keepsMembers_bare fun m (_ : m ∈ members) => saysSame_bare m.2.token
    exact ⟨keepsRecord_object inner .none hnodup h, keepsRecord_object .none inner hnodup h'⟩

end

end Json.Tree

open Json Json.Tree

namespace CallRequest

/-! ## Requests that are rewritten -/

/-- A change of the arguments of a request. -/
inductive InParams (R : Json.Tree → Json.Tree → Prop) : Json.Tree → Json.Tree → Prop
  | member {t t' : Json.Tree} (front back : List Member) (key : Spaced (List Letter))
      (before after inner : Gap) : key? (key, ⟨before, t, after⟩) = some "params" → R t t' →
      InParams R (.object (front ++ (key, ⟨before, t, after⟩) :: back) inner)
        (.object (front ++ (key, ⟨before, t', after⟩) :: back) inner)
  | item {t t' : Json.Tree} (address function network : Spaced Json.Tree)
      (before after inner : Gap) : R t t' →
      InParams R (.array [address, function, ⟨before, t, after⟩, network] inner)
        (.array [address, function, ⟨before, t', after⟩, network] inner)

/-- A text is rewritten in one place. A member may only be added if the text can still be decoded:
its value may be nested too deeply or hold half a surrogate pair. -/
inductive Rewritten : String → String → Prop
  | blanks (d d' : Spaced Json.Tree) : d.token.bare = d'.token.bare →
      Rewritten (String.ofList (documentText d)) (String.ofList (documentText d'))
  | spelling (before after : Gap) {t t' : Json.Tree} : t.Inside Respelled t' →
      Rewritten (String.ofList (documentText ⟨before, t, after⟩))
        (String.ofList (documentText ⟨before, t', after⟩))
  | order (before after : Gap) {t t' : Json.Tree} : t.Inside Swapped t' →
      Rewritten (String.ofList (documentText ⟨before, t, after⟩))
        (String.ofList (documentText ⟨before, t', after⟩))
  | shadow (before after : Gap) {t t' : Json.Tree} (r : CallRequest) :
      InParams (Inside Shadowed) t t' →
      decode (String.ofList (documentText ⟨before, t', after⟩)) = .ok r →
      Rewritten (String.ofList (documentText ⟨before, t, after⟩))
        (String.ofList (documentText ⟨before, t', after⟩))

theorem fields_nodup : (shape.fields.map Prod.fst).Nodup := by decide

theorem InParams.keepsRecord {R : Json.Tree → Json.Tree → Prop} {t t' : Json.Tree}
    (h : InParams R t t') (hR : ∀ t t', R t t' → Keeps t' t) : KeepsRecord shape t' t := by
  cases h with
  | @member t t' front back key before after inner hkey h =>
    have hmember : KeepsMember (key, ⟨before, t', after⟩) (key, ⟨before, t, after⟩) :=
      ⟨rfl, hR t t' h⟩
    exact keepsRecord_object inner inner fields_nodup
      (forall₂_replaced KeepsMember.refl hmember front back)
  | @item t t' address function network before after inner h =>
    have hitem : KeepsItem ⟨before, t', after⟩ ⟨before, t, after⟩ := hR t t' h
    exact keepsRecord_array inner inner
      (forall₂_replaced KeepsItem.refl hitem [address, function] [network])

theorem decode_keeps {d d' : Spaced Json.Tree} (h : KeepsRecord shape d.token d'.token)
    {r : CallRequest} (hr : decode (String.ofList (documentText d)) = .ok r) :
    decode (String.ofList (documentText d')) = .ok r := by
  rw [decode_eq_ok, parseRecord_eq_ok] at hr ⊢
  exact h _ hr

/-- What one change of the text preserves: the request. -/
theorem Rewritten.decode_eq_ok {text text' : String} (h : Rewritten text text') {r : CallRequest}
    (hr : decode text = .ok r) : decode text' = .ok r := by
  cases h with
  | blanks d d' hbare =>
    have hrecord := (keepsRecord_bare fields_nodup d.token).1
    rw [hbare] at hrecord
    refine decode_keeps (fun vs hvs => ?_) hr
    exact (keepsRecord_bare fields_nodup d'.token).2 vs (hrecord vs hvs)
  | spelling before after h =>
    exact decode_keeps (h.keepsRecord fields_nodup (fun _ _ => Respelled.keeps)
      fun _ _ => Respelled.keepsRecord fields_nodup) hr
  | order before after h =>
    exact decode_keeps (h.keepsRecord fields_nodup (fun _ _ => Swapped.keeps)
      fun _ _ => Swapped.keepsRecord fields_nodup) hr
  | @shadow before after t t' r' h hr' =>
    -- The longer text is a request, and what it says the shorter one says as well.
    have hrecord : KeepsRecord shape t' t := h.keepsRecord fun _ _ hinside =>
      hinside.flip.keeps fun _ _ hshadowed => hshadowed.keeps
    have hshorter : decode (String.ofList (documentText ⟨before, t, after⟩)) = .ok r' :=
      decode_keeps (d := ⟨before, t', after⟩) hrecord hr'
    rw [hshorter] at hr
    rw [hr', ← Except.ok.inj hr]

theorem decode_of_rewritten {text text' : String} (h : Relation.ReflTransGen Rewritten text text')
    {r : CallRequest} (hr : decode text = .ok r) : decode text' = .ok r := by
  induction h with
  | refl => exact hr
  | tail _ hstep ih => exact hstep.decode_eq_ok ih

/-! ## What requests are encoded as -/

theorem params_ordered {text : String} {r : CallRequest} (h : decode text = .ok r) :
    r.params.Ordered := by
  have hordered : ∀ t : Json.Tree, t.IsValue r.params → r.params.Ordered := by
    intro t ht
    have hread : t.read fieldRoom = .ok r.params := readField_any_eq_ok.mpr ht
    exact read_ordered hread
  rw [CallRequest.decode_eq_ok] at h
  obtain ⟨d, rfl⟩ := parseRecord_document h
  have hwritten := readRecord_eq_ok.mp (parseRecord_eq_ok.mp h)
  cases ht : d.token with
  | object members inner =>
    rw [ht] at hwritten
    obtain ⟨-, -, -, ⟨t, -, hparams⟩, -⟩ := hwritten
    exact hordered t hparams
  | array items inner =>
    rw [ht] at hwritten
    obtain ⟨-, -, t, -, -, -, -, hparams, -⟩ := hwritten
    exact hordered t hparams
  | _ =>
    rw [ht] at hwritten
    exact hwritten.elim

theorem exists_canonicalMembers {r : CallRequest} (h : r.params.Ordered) :
    ∃ ms, List.Forall₂ CanonicalMember ms [("contract_address", .str r.contractAddress),
      ("function_name", .str r.functionName), ("params", r.params),
      ("network", .str r.network)] := by
  refine exists_forall₂ fun m hm => ?_
  simp only [List.mem_cons, List.not_mem_nil, or_false] at hm
  rcases hm with rfl | rfl | rfl | rfl
  · exact exists_canonicalMember (Ordered.str _).exists_canonical
  · exact exists_canonicalMember (Ordered.str _).exists_canonical
  · exact exists_canonicalMember h.exists_canonical
  · exact exists_canonicalMember (Ordered.str _).exists_canonical

theorem bytes_printable {s : List Char} (h : Printable s) :
    ∀ b ∈ Text.Utf8.bytes (String.ofList s), 0x20 ≤ b.toNat := by
  intro b hb
  by_contra hcontrol
  rw [Text.Utf8.bytes, String.toList_ofList] at hb
  obtain ⟨c, hc, hcode⟩ := Text.Utf8.mem_of_mem_encode hb (by omega)
  have hprintable := h c hc
  omega

/-- A text that is rewritten in any number of places stays the same request, with the same encoding.
What a request is encoded as has no blanks between its tokens, its fields stand in the order of
their declaration, the keys of every object inside its arguments ascend, and no byte of it is a
control character. -/
theorem encoding_canonical :
    (∀ (text : String) (r : CallRequest), decode text = .ok r → r.params.Ordered ∧
      ∀ text', Relation.ReflTransGen Rewritten text text' → decode text' = .ok r ∧
        (decode text' >>= fun s => (Payload.call s).encode) = (Payload.call r).encode) ∧
    (∀ r : CallRequest, r.params.Ordered → ∃ (members : List Member) (body : String),
      (Payload.call r).encode = .ok body ∧
      body = String.ofList (documentText ⟨.none, .object members .none, .none⟩) ∧
      (Json.Tree.object members .none).bare = .object members .none ∧
      members.map key? = ["contract_address", "function_name", "params", "network"].map some ∧
      (∀ m ∈ members, m.2.token.Ascending) ∧
      ∀ b ∈ Text.Utf8.bytes body, 0x20 ≤ b.toNat) := by
  constructor
  · intro text r hr
    refine ⟨params_ordered hr, fun text' hrewritten => ?_⟩
    have hr' := decode_of_rewritten hrewritten hr
    exact ⟨hr', by rw [hr', ok_bind]⟩
  · intro r hordered
    obtain ⟨ms, hms⟩ := exists_canonicalMembers hordered
    have hbare := canonicalMembers_bare hms
    have htext : Printable (Json.Tree.object ms .none).text := by
      rw [← hbare]
      exact bare_printable _
    refine ⟨ms, _, rfl, compact_obj (canonicalMembers_prints hms), hbare, canonicalMembers_keys hms,
      canonicalMembers_ascending hms, ?_⟩
    rw [toJson, compact, ← object_text (canonicalMembers_prints hms)]
    exact bytes_printable htext

example :
    (decode "[ \"a\", \"\\u0066\", \x7b\"c\": [], \"b\": 1, \"\\u0062\": 2\x7d, \"n\"]" >>= fun r =>
      (Payload.call r).encode) =
    .ok ("\x7b\"contract_address\":\"a\",\"function_name\":\"f\"," ++
      "\"params\":\x7b\"b\":2,\"c\":[]\x7d,\"network\":\"n\"\x7d") := by
  decide +kernel

end CallRequest

end SmokeProbe
