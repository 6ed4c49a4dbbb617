import SmokeProbe.Probe.Error
import SmokeProbe.Probe.Operation

/-!
# Reports

What a probe writes about an operation: two lines about a completed exchange, whatever its status,
or one line about an error.
-/
namespace SmokeProbe.Report

/-- The lines of a report. A body or an error may itself contain line feeds. -/
def lines (op : Operation) : Except ProbeError Http.Outcome → List String
  | .ok outcome =>
    [op.label ++ " API Response Status Code: " ++ String.ofList (Text.decimal outcome.status),
      op.label ++ " API Response Body: " ++ outcome.body]
  | .error e => ["Error calling " ++ op.name ++ " API: " ++ e.describe]

/-- The bytes of a line with the line feed behind it. -/
def lineBytes (line : String) : List UInt8 := Text.Utf8.bytes line ++ [10]

/-- The bytes of a whole report. -/
def bytes (op : Operation) (result : Except ProbeError Http.Outcome) : List UInt8 :=
  (lines op result).flatMap lineBytes

end SmokeProbe.Report
