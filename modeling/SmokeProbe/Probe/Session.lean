import SmokeProbe.Probe.Prober

/-!
# Sessions

Any sequence of steps of one prober. All of them draw on one list of replies; a step that writes has
a sink of its own.
-/
namespace SmokeProbe

inductive Step where
  | endpoint (op : Operation)
  | send (op : Operation) (payload : Payload)
  | probe (op : Operation) (payload : Payload) (sink : Sink)
  | runAll (sink : Sink)

/-- What a step yields, apart from its trace. -/
inductive StepResult where
  | endpoint (url : Url)
  | sent (op : Operation) (result : Except ProbeError Http.Outcome)
  | wrote (result : Except SinkError Unit) (sink : Sink)

/-- A result with what was done for it. -/
structure StepReport where
  result : StepResult
  trace : Trace

namespace Prober
variable [Text.OtherCharsets]

def step (p : Prober) (replies : List Http.Reply) : Step → StepReport
  | .endpoint op => ⟨.endpoint (p.endpoint op), .idle replies⟩
  | .send op payload =>
    let (result, trace) := p.send op payload replies
    ⟨.sent op result, trace⟩
  | .probe op payload sink =>
    let w := p.probe op payload sink replies
    ⟨.wrote w.result w.sink, w.trace⟩
  | .runAll sink =>
    let w := p.runAll sink replies
    ⟨.wrote w.result w.sink, w.trace⟩

/-- The steps in order, each on the replies that the one before it left. -/
def session (p : Prober) : List Http.Reply → List Step → List StepReport
  | _, [] => []
  | replies, s :: more =>
    let r := p.step replies s
    r :: p.session r.trace.left more

end Prober

end SmokeProbe
