import SmokeProbe.Probe.Config
import SmokeProbe.Probe.Log
import SmokeProbe.Probe.Payload
import SmokeProbe.Probe.Report
import SmokeProbe.Probe.Sink

/-!
# Probers

A prober sends payloads to the operations below a base URL and reports what came back. Each step
takes the replies of the peer as a list and returns those that it left, together with the requests
that were answered and the events that were logged.
-/
namespace SmokeProbe

structure Prober where
  baseUrl : Url
deriving DecidableEq, Repr

/-- What a step did apart from its result. -/
structure Trace where
  requests : List Http.Request
  log : List Event
  left : List Http.Reply

namespace Trace

/-- A step that did nothing. -/
def idle (replies : List Http.Reply) : Trace := ⟨[], [], replies⟩

/-- One step after another; the replies left are those of the second. -/
def andThen (t u : Trace) : Trace := ⟨t.requests ++ u.requests, t.log ++ u.log, u.left⟩

/-- Logs one more event. -/
def logging (t : Trace) (e : Event) : Trace := { t with log := t.log ++ [e] }

end Trace

namespace Prober
variable [Text.OtherCharsets]

def ofConfig (c : Config) : Except ProbeError Prober := c.resolve.map Prober.mk

/-- The URL of an operation: the path of the base URL without its trailing slashes, and the path of
the operation behind it. -/
def endpoint (p : Prober) (op : Operation) : Url :=
  let front := (p.baseUrl.path.text.reverse.dropWhile (· == '/')).reverse
  p.baseUrl.withPath (front ++ op.path.toList)

/-- One exchange. A response of any status is an outcome. Nothing is logged or sent if the payload
cannot be encoded. -/
def send (p : Prober) (op : Operation) (payload : Payload) (replies : List Http.Reply) :
    Except ProbeError Http.Outcome × Trace :=
  let url := p.endpoint op
  match payload.encode with
  | .error e => (.error (.encoding e), .idle replies)
  | .ok body =>
    let event := Event.sending url (Text.Utf8.bytes body).length
    let exchange := Http.Exchange.post url body replies
    let result := match exchange.result with
      | .ok outcome => .ok outcome
      | .error failure => .error (.transport failure)
    (result, ⟨exchange.requests, [event], exchange.left⟩)

/-- The event that tells how a probe ended. -/
def closing (op : Operation) : Except ProbeError Http.Outcome → Event
  | .ok outcome => .completed op outcome.status
  | .error e => .failed op e.message

/-- The result of a step that writes. -/
structure Written where
  result : Except SinkError Unit
  sink : Sink
  trace : Trace

/-- Writes a report and flushes. -/
def writeReport (sink : Sink) (lines : List String) : Sink × Except SinkError Unit :=
  match sink.writeAll (lines.map Report.lineBytes) with
  | (sink, .ok ()) => sink.flush
  | (sink, .error e) => (sink, .error e)

/-- One exchange and its report. Only a sink that refuses the report makes the step fail. -/
def probe (p : Prober) (op : Operation) (payload : Payload) (sink : Sink)
    (replies : List Http.Reply) : Written :=
  let (result, trace) := p.send op payload replies
  let (sink, done) := writeReport sink (Report.lines op result)
  ⟨done, sink, trace.logging (closing op result)⟩

/-- The sample of each operation: deploy first, then call, whatever came of the deploy. -/
def runAll (p : Prober) (sink : Sink) (replies : List Http.Reply) : Written :=
  let deploy := p.probe .deploy Operation.deploy.samplePayload sink replies
  match deploy.result with
  | .error _ => deploy
  | .ok () =>
    let call := p.probe .call Operation.call.samplePayload deploy.sink deploy.trace.left
    { call with trace := deploy.trace.andThen call.trace }

end Prober

end SmokeProbe
