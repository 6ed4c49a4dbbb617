import SmokeProbe.Json.Record
import SmokeProbe.Probe.Operation

/-!
# Payloads

The bodies that are sent: the request to deploy a contract, the request to call a function of one,
and any other JSON value. Fields are written in the order of their declaration. A payload may also
refuse to be encoded, with an error of its own.
-/
namespace SmokeProbe

structure DeployRequest where
  contractPath : String
  network : String
deriving DecidableEq, Repr

structure CallRequest where
  contractAddress : String
  functionName : String
  /-- The arguments of the function, any JSON value. -/
  params : Json
  network : String
deriving DecidableEq, Repr

/-! The constants of the sample requests. -/

namespace Sample

def contractPath : String := "src/dapp_examples/smart_contract.sol"

def contractAddress : String := "0x1234567890abcdef1234567890abcdef12345678"

def recipient : String := "0xabcdef1234567890abcdef1234567890abcdef12"

def network : String := "testnet"

end Sample

namespace DeployRequest

def sampleRequest : DeployRequest := ⟨Sample.contractPath, Sample.network⟩

def shape : Json.Shape := ⟨"DeployRequest", [("contract_path", .text), ("network", .text)]⟩

def toJson (r : DeployRequest) : Json :=
  .obj [("contract_path", .str r.contractPath), ("network", .str r.network)]

/-- Takes the values of the fields, in their order. -/
def ofValues? : List Json → Option DeployRequest
  | [.str path, .str network] => some ⟨path, network⟩
  | _ => none

/-- Reads a request. The shape admits no other values than `ofValues?` takes, so the last case does
not arise. -/
def decode (text : String) : Except Json.Error DeployRequest := do
  let vs ← Json.parseRecord shape text
  match ofValues? vs with
  | some r => pure r
  | none => .error ⟨.custom "", 0, 0⟩

end DeployRequest

namespace CallRequest

def sampleRequest : CallRequest :=
  { contractAddress := Sample.contractAddress
    functionName := "transfer"
    params := Json.ofMembers [("to", .str Sample.recipient), ("amount", .int 100)]
    network := Sample.network }

def shape : Json.Shape :=
  ⟨"CallRequest", [("contract_address", .text), ("function_name", .text), ("params", .any),
    ("network", .text)]⟩

def toJson (r : CallRequest) : Json :=
  .obj [("contract_address", .str r.contractAddress), ("function_name", .str r.functionName),
    ("params", r.params), ("network", .str r.network)]

/-- Takes the values of the fields, in their order. -/
def ofValues? : List Json → Option CallRequest
  | [.str address, .str function, params, .str network] =>
    some ⟨address, function, params, network⟩
  | _ => none

/-- Reads a request. The shape admits no other values than `ofValues?` takes, so the last case does
not arise. -/
def decode (text : String) : Except Json.Error CallRequest := do
  let vs ← Json.parseRecord shape text
  match ofValues? vs with
  | some r => pure r
  | none => .error ⟨.custom "", 0, 0⟩

end CallRequest

/-- What a request is to carry. -/
inductive Payload where
  | deploy (request : DeployRequest)
  | call (request : CallRequest)
  | json (value : Json)
  | failing (error : Json.Error)
deriving DecidableEq, Repr

/-- The text of the body, or the reason why there is none. -/
def Payload.encode : Payload → Except Json.Error String
  | .deploy r => .ok r.toJson.compact
  | .call r => .ok r.toJson.compact
  | .json v => .ok v.compact
  | .failing e => .error e

/-- The sample payload of an operation. -/
def Operation.samplePayload : Operation → Payload
  | .deploy => .deploy DeployRequest.sampleRequest
  | .call => .call CallRequest.sampleRequest

end SmokeProbe
