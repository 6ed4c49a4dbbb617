import SmokeProbe.Http.Exchange
import SmokeProbe.Json.Error

/-!
# Errors of a probe

An error has a message and a chain of causes. Its description is the message followed by the causes,
except that a cause with which the description already ends is not repeated.
-/
namespace SmokeProbe

inductive ProbeError where
  | transport (failure : Http.Failure)
  | encoding (error : Json.Error)
  | invalidUrl (reason : String)
  | invalidPort (text : String)
deriving DecidableEq, Repr

namespace ProbeError

def message : ProbeError → String
  | .transport failure => failure.message
  | .encoding error => "Failed to encode request body: " ++ error.message
  | .invalidUrl reason => "Invalid base URL: " ++ reason
  | .invalidPort text => "Invalid port number: " ++ text

/-- The chain of causes, the outermost first. -/
def causes : ProbeError → List String
  | .transport failure => failure.causes
  | .encoding error => [error.message]
  | .invalidUrl _ => []
  | .invalidPort _ => []

/-- Appends a cause, unless the text ends with it. -/
def appendCause (text cause : String) : String :=
  if cause.toList.isSuffixOf text.toList then text else text ++ ": " ++ cause

/-- A message followed by its causes. -/
def withCauses (message : String) (causes : List String) : String :=
  causes.foldl appendCause message

def describe (e : ProbeError) : String := withCauses e.message e.causes

end ProbeError

end SmokeProbe
