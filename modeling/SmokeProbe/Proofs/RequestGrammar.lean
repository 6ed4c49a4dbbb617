import SmokeProbe.Probe.Payload
import SmokeProbe.Proofs.RecordGrammar

/-!
# The grammar of requests

Which texts are requests, and which request each of them is. In an object the order of the members,
the spelling of their keys and the blanks do not matter, nor do members with other names, whatever
they hold.
-/
namespace SmokeProbe

open Json.Tree

namespace DeployRequest

/-- How the request is written. -/
def WrittenAs (r : DeployRequest) : Json.Tree → Prop
  | .object members _ =>
    ProperKeys members ∧
      Once "contract_path" members (IsText · r.contractPath) ∧
      Once "network" members (IsText · r.network)
  | .array items _ =>
    ∃ path network, items.map (·.token) = [path, network] ∧
      path.IsText r.contractPath ∧ network.IsText r.network
  | _ => False

theorem ofValues?_eq_some {vs : List Json} {r : DeployRequest} :
    ofValues? vs = some r ↔ vs = [.str r.contractPath, .str r.network] := by
  constructor
  · intro h
    unfold ofValues? at h
    split at h <;> cases h
    rfl
  · rintro rfl
    rfl

theorem decode_eq_ok {text : String} {r : DeployRequest} :
    decode text = .ok r ↔
      Json.parseRecord shape text = .ok [.str r.contractPath, .str r.network] := by
  rw [decode, bind_eq_ok]
  constructor
  · rintro ⟨vs, hvs, h⟩
    split at h
    · next hr =>
      cases h
      rw [hvs, ofValues?_eq_some.mp hr]
    · cases h
  · intro h
    exact ⟨_, h, rfl⟩

theorem readRecord_eq_ok {t : Json.Tree} {r : DeployRequest} :
    t.readRecord shape = .ok [.str r.contractPath, .str r.network] ↔ r.WrittenAs t := by
  cases t with
  | array items inner =>
    simp only [readRecord, readPositions_eq_ok, shape, WrittenAs]
    rcases items with _ | ⟨i, _ | ⟨j, _ | ⟨k, items⟩⟩⟩
    · simp
    · simp
    · simp [readField_text_eq_ok]
    · simp
  | object members inner =>
    rw [readRecord, collect_eq_ok (by decide)]
    simp [shape, WrittenAs, Settles, readField_text_eq_ok, ProperKeys, Once]
  | _ =>
    simp only [readRecord]
    exact iff_of_false refuse_ne_ok id

end DeployRequest

namespace CallRequest

/-- How the request is written. -/
def WrittenAs (r : CallRequest) : Json.Tree → Prop
  | .object members _ =>
    ProperKeys members ∧
      Once "contract_address" members (IsText · r.contractAddress) ∧
      Once "function_name" members (IsText · r.functionName) ∧
      Once "params" members (IsValue · r.params) ∧
      Once "network" members (IsText · r.network)
  | .array items _ =>
    ∃ address function params network,
      items.map (·.token) = [address, function, params, network] ∧
      address.IsText r.contractAddress ∧ function.IsText r.functionName ∧
      params.IsValue r.params ∧ network.IsText r.network
  | _ => False

theorem ofValues?_eq_some {vs : List Json} {r : CallRequest} :
    ofValues? vs = some r ↔
      vs = [.str r.contractAddress, .str r.functionName, r.params, .str r.network] := by
  constructor
  · intro h
    unfold ofValues? at h
    split at h <;> cases h
    rfl
  · rintro rfl
    rfl

theorem decode_eq_ok {text : String} {r : CallRequest} :
    decode text = .ok r ↔
      Json.parseRecord shape text =
        .ok [.str r.contractAddress, .str r.functionName, r.params, .str r.network] := by
  rw [decode, bind_eq_ok]
  constructor
  · rintro ⟨vs, hvs, h⟩
    split at h
    · next hr =>
      cases h
      rw [hvs, ofValues?_eq_some.mp hr]
    · cases h
  · intro h
    exact ⟨_, h, rfl⟩

theorem readRecord_eq_ok {t : Json.Tree} {r : CallRequest} :
    t.readRecord shape =
        .ok [.str r.contractAddress, .str r.functionName, r.params, .str r.network] ↔
      r.WrittenAs t := by
  cases t with
  | array items inner =>
    simp only [readRecord, readPositions_eq_ok, shape, WrittenAs]
    rcases items with _ | ⟨i, _ | ⟨j, _ | ⟨k, _ | ⟨l, _ | ⟨m, items⟩⟩⟩⟩⟩
    · simp
    · simp
    · simp
    · simp
    · simp [readField_text_eq_ok, readField_any_eq_ok]
    · simp
  | object members inner =>
    rw [readRecord, collect_eq_ok (by decide)]
    simp [shape, WrittenAs, Settles, readField_text_eq_ok, readField_any_eq_ok, ProperKeys, Once]
  | _ =>
    simp only [readRecord]
    exact iff_of_false refuse_ne_ok id

end CallRequest

/-- A decoder accepts a grammar: what a request is written as is decoded to it, and nothing else is
decoded. -/
structure Decodes {R : Type} (decode : String → Except Json.Error R) (shape : Json.Shape)
    (WrittenAs : R → Json.Tree → Prop) : Prop where
  document (d : Json.Spaced Json.Tree) (r : R) :
    decode (String.ofList (Json.documentText d)) = .ok r ↔ WrittenAs r d.token
  complete (text : String) (r : R) :
    decode text = .ok r → ∃ d, text = String.ofList (Json.documentText d)
  trailing (d : Json.Spaced Json.Tree) (c : Char) (junk : List Char) (r : R) :
    Json.isGap c = false → decode (String.ofList (Json.documentText d ++ c :: junk)) ≠ .ok r
  /-- Members with other names may stand anywhere, and the fields in any order. -/
  order (members members' : List Json.Member) (inner inner' before before' after after' : Json.Gap)
      (r : R) :
    ProperKeys members → ProperKeys members' →
    (∀ field ∈ shape.fields, (named field.1 members).Perm (named field.1 members')) →
    (decode (String.ofList (Json.documentText ⟨before, .object members inner, after⟩)) = .ok r ↔
      decode (String.ofList (Json.documentText ⟨before', .object members' inner', after'⟩)) = .ok r)
  array (items : List (Json.Spaced Json.Tree)) (members : List Json.Member)
      (inner inner' before before' after after' : Json.Gap) (r : R) :
    ProperKeys members →
    List.Forall₂ (fun field i => named field.1 members = [i.token]) shape.fields items →
    (decode (String.ofList (Json.documentText ⟨before, .array items inner, after⟩)) = .ok r ↔
      decode (String.ofList (Json.documentText ⟨before', .object members inner', after'⟩)) = .ok r)

theorem decodes_of_record {R : Type} {decode : String → Except Json.Error R} {shape : Json.Shape}
    {WrittenAs : R → Json.Tree → Prop} (values : R → List Json)
    (hdecode : ∀ text r, decode text = .ok r ↔ Json.parseRecord shape text = .ok (values r))
    (hwritten : ∀ t r, t.readRecord shape = .ok (values r) ↔ WrittenAs r t)
    (hnodup : (shape.fields.map Prod.fst).Nodup) : Decodes decode shape WrittenAs where
  document d r := by rw [hdecode, Json.parseRecord_eq_ok, hwritten]
  complete text r h := Json.parseRecord_document ((hdecode text r).mp h)
  trailing d c junk r hc h := Json.parseRecord_trailing hc junk ((hdecode _ r).mp h)
  order members members' inner inner' before before' after after' r hkeys hkeys' hsame := by
    simp only [hdecode, Json.parseRecord_eq_ok]
    exact Json.readRecord_order hnodup hkeys hkeys' hsame _
  array items members inner inner' before before' after after' r hkeys hsame := by
    simp only [hdecode, Json.parseRecord_eq_ok]
    exact Json.readRecord_array hnodup hkeys hsame _

/-- Both decoders accept exactly the texts of their requests. -/
theorem requests_decode :
    Decodes DeployRequest.decode DeployRequest.shape DeployRequest.WrittenAs ∧
      Decodes CallRequest.decode CallRequest.shape CallRequest.WrittenAs := by
  constructor
  · exact decodes_of_record (fun r => [.str r.contractPath, .str r.network])
      (fun _ _ => DeployRequest.decode_eq_ok) (fun _ _ => DeployRequest.readRecord_eq_ok)
      (by decide)
  · exact decodes_of_record
      (fun r => [.str r.contractAddress, .str r.functionName, r.params, .str r.network])
      (fun _ _ => CallRequest.decode_eq_ok) (fun _ _ => CallRequest.readRecord_eq_ok)
      (by decide)

end SmokeProbe
