/-!
# The two operations of the probed interface

Each operation has a path below the base URL, a label for the lines of a completed exchange, and a
name for error lines and log events.
-/
namespace SmokeProbe

inductive Operation where
  | deploy
  | call
deriving DecidableEq, Repr

namespace Operation

def path : Operation → String
  | .deploy => "/api/dapp/deploy"
  | .call => "/api/dapp/call"

def label : Operation → String
  | .deploy => "Deploy"
  | .call => "Call"

def name : Operation → String
  | .deploy => "deploy"
  | .call => "call"

end Operation

end SmokeProbe
