import SmokeProbe.Proofs.JsonPrinting
import SmokeProbe.Proofs.RequestGrammar
import SmokeProbe.Proofs.SendHops

/-!
# Requests that are encoded and decoded

Decoding undoes encoding up to the depth that a reader of requests enters. The encoding has no limit
of its own, so deeper arguments are sent and then refused by a reader, and even there no two
requests have one encoding.
-/
namespace SmokeProbe

open Json.Tree

namespace Json

theorem Spells.isText {t : Tree} {s : String} (h : Spells t (.str s)) : t.IsText s := by
  have htext : t.text = '\x22' :: (s.toList.flatMap escapeChar ++ ['\x22']) := h.text
  obtain ⟨letters, rfl⟩ := eq_string_of_text htext
  have hread := h.read 0
  rw [Tree.read, if_pos (show (Json.str s).depth ≤ 0 from Nat.le_refl 0)] at hread
  obtain ⟨cs, hcs, hs⟩ := map_eq_ok.mp hread
  exact ⟨letters, rfl, by rw [hcs, ← Json.str.inj hs, String.toList_ofList]⟩

theorem Spells.isValue {t : Tree} {v : Json} (h : Spells t v) (hdepth : v.depth ≤ fieldRoom) :
    t.IsValue v := by
  rw [IsValue, h.text]
  exact h.value hdepth

theorem SpellsMember.key {m : Member} {kv : String × Json} (h : SpellsMember m kv) :
    key? m = some kv.1 := h.prints.key

theorem SpellsMember.token {m : Member} {kv : String × Json} (h : SpellsMember m kv) :
    Spells m.2.token kv.2 := by
  obtain ⟨letters, t, rfl, _, ht⟩ := h
  exact ht

/-- A member that is a field not found before is read as that field. -/
theorem SpellsMember.collect {m : Member} {kv : String × Json} (h : SpellsMember m kv)
    {fields : List (String × FieldKind)} {found : List (String × Json)} {kind : FieldKind}
    (hfield : fields.lookup kv.1 = some kind) (hnew : found.any (·.1 == kv.1) = false)
    (members : List Member) :
    Tree.collect fields found (m :: members) =
      m.2.token.readField kind >>= fun v => Tree.collect fields (found ++ [(kv.1, v)]) members := by
  obtain ⟨letters, t, rfl, hkey, _⟩ := h
  rw [Tree.collect, Spaced.compact, hkey.2]
  simp only [Except.map, ok_bind, String.ofList_toList, hfield, hnew, Bool.false_eq_true, if_false]

theorem Spells.readField {t : Tree} {s : String} (h : Spells t (.str s)) :
    t.readField .text = .ok (.str s) :=
  readField_text_eq_ok.mpr ⟨s, rfl, h.isText⟩

theorem Spells.readField_deep {t : Tree} {v : Json} (h : Spells t v)
    (hdepth : ¬ v.depth ≤ fieldRoom) : t.readField .any = .error .nestedTooDeeply := by
  rw [Tree.readField, h.read, if_neg hdepth]

/-- Members are spelled whenever their values are. -/
theorem exists_members (members : List (String × Json)) (h : ∀ m ∈ members, ∃ t, Spells t m.2) :
    ∃ ms, List.Forall₂ SpellsMember ms members :=
  exists_forall₂ fun m hm => exists_member (h m hm)

/-- An object of members is encoded as a document. -/
theorem compact_obj {ms : List Member} {members : List (String × Json)}
    (h : List.Forall₂ PrintsMember ms members) :
    (Json.obj members).compact =
      String.ofList (documentText (Spaced.compact (Tree.object ms .none))) := by
  rw [compact, ← object_text h, documentText]
  simp [Spaced.compact, Gap.none]

/-- No two lists of members have one text, even out of order. -/
theorem ofMembers_eq_of_compact {members members' : List (String × Json)}
    (h : ∀ m ∈ members, Exact m.2) (h' : ∀ m ∈ members', Exact m.2)
    (htext : (Json.obj members).compact = (Json.obj members').compact) :
    ofMembers members = ofMembers members' := by
  obtain ⟨ms, hms⟩ := exists_members _ fun m hm => (h m hm).spelled
  obtain ⟨ms', hms'⟩ := exists_members _ fun m hm => (h' m hm).spelled
  let room := max (depthMembers members + 1) (depthMembers members' + 1)
  have hread := value_text (Tree.object ms .none) room .none [] endsNumber_nil
  have hread' := value_text (Tree.object ms' .none) room .none [] endsNumber_nil
  rw [object_read hms, if_pos (Nat.le_max_left _ _), object_text (printsMembers hms)] at hread
  rw [object_read hms', if_pos (Nat.le_max_right _ _), object_text (printsMembers hms'),
    ← String.ofList_inj.mp htext, hread] at hread'
  exact congrArg Prod.fst (Except.ok.inj hread')

theorem exists_of_mapError {A : Type} {r : Except Error A} {cause : Cause}
    (h : r.mapError Error.cause = .error cause) : ∃ e, r = .error e ∧ e.cause = cause := by
  cases r with
  | ok a => cases h
  | error e => exact ⟨e, rfl, Except.error.inj h⟩

theorem parseRecord_error_line {shape : Shape} {text : String} {e : Error}
    (h : parseRecord shape text = .error e) : e.line ≠ 0 := by
  unfold parseRecord at h
  split at h <;> cases h
  exact Nat.succ_ne_zero _

end Json

open Json

namespace DeployRequest

theorem decode_compact (r : DeployRequest) : decode r.toJson.compact = .ok r := by
  obtain ⟨ms, hms⟩ := exists_members [("contract_path", .str r.contractPath),
    ("network", .str r.network)] fun m hm => by
      simp only [List.mem_cons, List.not_mem_nil, or_false] at hm
      rcases hm with rfl | rfl <;> exact (Exact.str _).spelled
  rw [toJson, compact_obj (printsMembers hms), decode_eq_ok, parseRecord_eq_ok, readRecord_eq_ok]
  cases hms with | @cons path _ _ _ hpath hms =>
  cases hms with | @cons network _ _ _ hnetwork hms =>
  cases hms
  refine ⟨?_, ⟨path.2.token, ?_, hpath.token.isText⟩, ⟨network.2.token, ?_, hnetwork.token.isText⟩⟩
  · simp [ProperKeys, hpath.key, hnetwork.key]
  · simp [named, hpath.key, hnetwork.key]
  · simp [named, hpath.key, hnetwork.key]

end DeployRequest

namespace CallRequest

theorem decode_compact {r : CallRequest} (hexact : r.params.Exact) :
    if r.params.depth ≤ fieldRoom then decode r.toJson.compact = .ok r
    else ∃ e, decode r.toJson.compact = .error e ∧ e.cause = .nestedTooDeeply ∧ e.line ≠ 0 := by
  obtain ⟨ms, hms⟩ := exists_members [("contract_address", .str r.contractAddress),
    ("function_name", .str r.functionName), ("params", r.params), ("network", .str r.network)]
    fun m hm => by
      simp only [List.mem_cons, List.not_mem_nil, or_false] at hm
      rcases hm with rfl | rfl | rfl | rfl
      · exact (Exact.str _).spelled
      · exact (Exact.str _).spelled
      · exact hexact.spelled
      · exact (Exact.str _).spelled
  rw [toJson, compact_obj (printsMembers hms)]
  cases hms with | @cons address _ _ _ haddress hms =>
  cases hms with | @cons function _ _ _ hfunction hms =>
  cases hms with | @cons params _ _ _ hparams hms =>
  cases hms with | @cons network _ _ _ hnetwork hms =>
  cases hms
  split
  · next hdepth =>
    rw [decode_eq_ok, parseRecord_eq_ok, readRecord_eq_ok]
    refine ⟨?_, ⟨address.2.token, ?_, haddress.token.isText⟩,
      ⟨function.2.token, ?_, hfunction.token.isText⟩,
      ⟨params.2.token, ?_, hparams.token.isValue hdepth⟩,
      ⟨network.2.token, ?_, hnetwork.token.isText⟩⟩
    · simp [ProperKeys, haddress.key, hfunction.key, hparams.key, hnetwork.key]
    all_goals simp [named, haddress.key, hfunction.key, hparams.key, hnetwork.key]
  · next hdepth =>
    have hcause := parseRecord_text shape
      (Spaced.compact (Tree.object [address, function, params, network] .none))
    rw [Spaced.compact, readRecord, haddress.collect rfl rfl, haddress.token.readField, ok_bind,
      hfunction.collect rfl rfl, hfunction.token.readField, ok_bind, hparams.collect rfl rfl,
      hparams.token.readField_deep hdepth] at hcause
    obtain ⟨e, he, hdeep⟩ := exists_of_mapError hcause
    refine ⟨e, ?_, hdeep, parseRecord_error_line he⟩
    rw [decode, Spaced.compact, he]
    rfl

theorem ofMembers_toJson (r : CallRequest) :
    ofMembers [("contract_address", .str r.contractAddress), ("function_name", .str r.functionName),
        ("params", r.params), ("network", .str r.network)] =
      .obj [("contract_address", .str r.contractAddress), ("function_name", .str r.functionName),
        ("network", .str r.network), ("params", r.params)] := by
  have hfunction : keyBefore "function_name" "contract_address" = false := by decide +kernel
  have hparams : keyBefore "params" "contract_address" = false ∧
      keyBefore "params" "function_name" = false := by decide +kernel
  have hnetwork : keyBefore "network" "contract_address" = false ∧
      keyBefore "network" "function_name" = false ∧ keyBefore "network" "params" = true := by
    decide +kernel
  simp [ofMembers, insertMember, hfunction, hparams, hnetwork]

theorem compact_injective {r s : CallRequest} (hr : r.params.Exact) (hs : s.params.Exact)
    (h : r.toJson.compact = s.toJson.compact) : r = s := by
  have hexact : ∀ q : CallRequest, q.params.Exact → ∀ m ∈ [("contract_address",
      Json.str q.contractAddress), ("function_name", .str q.functionName), ("params", q.params),
      ("network", .str q.network)], m.2.Exact := by
    intro q hq m hm
    simp only [List.mem_cons, List.not_mem_nil, or_false] at hm
    rcases hm with rfl | rfl | rfl | rfl
    · exact .str _
    · exact .str _
    · exact hq
    · exact .str _
  have hmembers := ofMembers_eq_of_compact (hexact r hr) (hexact s hs) h
  rw [ofMembers_toJson, ofMembers_toJson] at hmembers
  simp only [Json.obj.injEq, List.cons.injEq, Prod.mk.injEq, Json.str.injEq, true_and,
    and_true] at hmembers
  obtain ⟨haddress, hfunction, hnetwork, hparams⟩ := hmembers
  cases r
  cases s
  simp_all

end CallRequest

/-- Decoding undoes encoding, for a request that is sent too, up to the depth that a reader enters;
beyond that depth it fails. The encoding is injective at any depth. A send makes a first request
whenever a peer answers, the client, which has no TLS, connects under the scheme, and a request line
can carry the URL. -/
theorem requests_roundTrip [Text.OtherCharsets] :
    (∀ r : DeployRequest, ∃ text,
      (Payload.deploy r).encode = .ok text ∧ DeployRequest.decode text = .ok r) ∧
    (∀ r : CallRequest, r.params.Exact → ∃ text, (Payload.call r).encode = .ok text ∧
      (r.params.depth ≤ 126 → CallRequest.decode text = .ok r) ∧
      (126 < r.params.depth → ∃ e, CallRequest.decode text = .error e ∧
        e.message = "recursion limit exceeded" ++ placeText e.line e.column)) ∧
    (∀ r s : DeployRequest, (Payload.deploy r).encode = (Payload.deploy s).encode → r = s) ∧
    (∀ r s : CallRequest, r.params.Exact → s.params.Exact →
      (Payload.call r).encode = (Payload.call s).encode → r = s) ∧
    (∀ (p : Prober) op found (r : DeployRequest),
      ∀ q ∈ (p.send op (.deploy r) found).2.requests.head?, DeployRequest.decode q.body = .ok r) ∧
    (∀ (p : Prober) op found (r : CallRequest), r.params.Exact → r.params.depth ≤ 126 →
      ∀ q ∈ (p.send op (.call r) found).2.requests.head?, CallRequest.decode q.body = .ok r) ∧
    (∀ (p : Prober) op found payload, (∃ text, payload.encode = .ok text) →
      ((p.send op payload found).2.requests = [] ↔ found = [] ∨
        Http.canConnect p.baseUrl.scheme = false ∨
        Http.isSendable (Http.Exchange.origin (p.endpoint op)) = false)) := by
  refine ⟨?_, ?_, ?_, ?_, ?_, ?_, fun p op found _ ⟨_, h⟩ => p.send_silent_iff op found h⟩
  · exact fun r => ⟨_, rfl, r.decode_compact⟩
  · intro r hexact
    have hdecode := CallRequest.decode_compact hexact
    refine ⟨_, rfl, fun hdepth => ?_, fun hdepth => ?_⟩
    · rwa [if_pos (show r.params.depth ≤ fieldRoom from hdepth)] at hdecode
    · rw [if_neg (show ¬ r.params.depth ≤ fieldRoom from Nat.not_le.mpr hdepth)] at hdecode
      obtain ⟨e, he, hcause, hline⟩ := hdecode
      refine ⟨e, he, ?_⟩
      rw [Json.Error.message, if_neg hline, hcause]
      rfl
  · intro r s h
    have hr := r.decode_compact
    rw [Except.ok.inj h, s.decode_compact] at hr
    exact (Except.ok.inj hr).symm
  · exact fun r s hr hs h => CallRequest.compact_injective hr hs (Except.ok.inj h)
  · intro p op found r q hq
    rw [(p.send_posts op found rfl q hq).body]
    exact r.decode_compact
  · intro p op found r hexact hdepth q hq
    have hdecode := CallRequest.decode_compact hexact
    rw [if_pos (show r.params.depth ≤ fieldRoom from hdepth)] at hdecode
    rw [(p.send_posts op found rfl q hq).body]
    exact hdecode

end SmokeProbe
