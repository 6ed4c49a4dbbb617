import SmokeProbe.Proofs.BoundedSink

/-!
# Runs whose output is cut short

A run of both samples against a sink with limited room, compared with the run that nothing hinders.
Every number of bytes is a possible end: inside the deploy report, between the reports, inside the
call report. The main statement says for each of them what was written, how often the sink was
flushed, how the run ended, and which requests, events and replies it had.
-/
namespace SmokeProbe

namespace Sink

/-- Nothing has been written yet, and everything will be taken. -/
def Works (sink : Sink) : Prop := sink.room = none ∧ sink.flushFails = false ∧ sink.written = []

/-- Nothing has been written, and nothing will be taken. -/
def IsFull (sink : Sink) : Prop := sink.room = some 0 ∧ sink.written = []

end Sink

theorem Report.bytes_ne_nil (op : Operation) (result : Except ProbeError Http.Outcome) :
    Report.bytes op result ≠ [] := by
  cases result <;> simp [bytes, lines, lineBytes]

namespace Prober
variable [Text.OtherCharsets] (p : Prober) (replies : List Http.Reply)

/-- The deploy half of a run, apart from its writing. -/
def deployTrace : Trace := p.probeTrace .deploy Operation.deploy.samplePayload replies

/-- The call half of a run. It finds the replies that the deploy half left. -/
def callTrace : Trace :=
  p.probeTrace .call Operation.call.samplePayload (p.deployTrace replies).left

def deployReport : List UInt8 := p.report .deploy Operation.deploy.samplePayload replies

def callReport : List UInt8 :=
  p.report .call Operation.call.samplePayload (p.deployTrace replies).left

variable {p replies}

theorem runAll_of_error {sink : Sink} {e : SinkError}
    (h : (p.probe .deploy Operation.deploy.samplePayload sink replies).result = .error e) :
    p.runAll sink replies = p.probe .deploy Operation.deploy.samplePayload sink replies := by
  unfold runAll
  simp only [h]

theorem runAll_of_ok {sink : Sink}
    (h : (p.probe .deploy Operation.deploy.samplePayload sink replies).result = .ok ()) :
    p.runAll sink replies =
      let deploy := p.probe .deploy Operation.deploy.samplePayload sink replies
      let call := p.probe .call Operation.call.samplePayload deploy.sink deploy.trace.left
      { call with trace := deploy.trace.andThen call.trace } := by
  unfold runAll
  simp only [h]

/-- A run that ends inside the deploy report. -/
theorem runAll_of_deploy_overrun {sink : Sink} {room : Nat} (hr : sink.room = some room)
    (h : room < (p.deployReport replies).length) :
    p.runAll sink replies =
      ⟨.error sink.whenFull, sink.overrun room (p.deployReport replies), p.deployTrace replies⟩ := by
  have hd := probe_of_overrun hr h
  rw [runAll_of_error (by rw [hd]), hd]
  rfl

/-- A run that ends with the first flush. -/
theorem runAll_of_flush_fails {sink : Sink} (hf : sink.flushFails = true)
    (h : sink.Fits (p.deployReport replies)) :
    p.runAll sink replies =
      ⟨.error .flushFailed, sink.reported (p.deployReport replies), p.deployTrace replies⟩ := by
  have hd := probe_of_flush_fails hf h
  rw [runAll_of_error (by rw [hd]), hd]
  rfl

/-- A run that goes on to the call, whatever becomes of its report. -/
theorem runAll_of_deploy_fits {sink : Sink} (hf : sink.flushFails = false)
    (h : sink.Fits (p.deployReport replies)) :
    p.runAll sink replies =
      let call := p.probe .call Operation.call.samplePayload
        (sink.reported (p.deployReport replies)) (p.deployTrace replies).left
      { call with trace := (p.deployTrace replies).andThen call.trace } := by
  have hd := probe_of_fits hf h
  rw [runAll_of_ok (by rw [hd]), hd]
  rfl

/-- A run that ends inside the call report. -/
theorem runAll_of_call_overrun {sink : Sink} {room : Nat} (hf : sink.flushFails = false)
    (hd : sink.Fits (p.deployReport replies))
    (hr : (sink.reported (p.deployReport replies)).room = some room)
    (hc : room < (p.callReport replies).length) :
    p.runAll sink replies =
      ⟨.error sink.whenFull,
        (sink.reported (p.deployReport replies)).overrun room (p.callReport replies),
        (p.deployTrace replies).andThen (p.callTrace replies)⟩ := by
  rw [runAll_of_deploy_fits hf hd, probe_of_overrun hr hc]
  rfl

/-- A run with room for both reports. -/
theorem runAll_of_fits {sink : Sink} (hf : sink.flushFails = false)
    (h : sink.Fits (p.deployReport replies ++ p.callReport replies)) :
    p.runAll sink replies =
      ⟨.ok (), (sink.reported (p.deployReport replies)).reported (p.callReport replies),
        (p.deployTrace replies).andThen (p.callTrace replies)⟩ := by
  obtain ⟨hd, hc⟩ := Sink.fits_append.mp h
  have hw : (sink.reported (p.deployReport replies)).flushFails = false := hf
  rw [runAll_of_deploy_fits hf hd, probe_of_fits hw hc]
  rfl

variable (p replies)

/-- With room for everything the report is written, also if the flush fails. -/
theorem written_of_room {sink : Sink} (hroom : sink.room = none) (hempty : sink.written = [])
    (op : Operation) (payload : Payload) :
    (p.probe op payload sink replies).sink.written = p.report op payload replies := by
  have hfits : sink.Fits (p.report op payload replies) := by
    intro room hr
    rw [hroom] at hr
    cases hr
  cases hflush : sink.flushFails with
  | false =>
    rw [probe_of_fits hflush hfits]
    simp [Sink.reported, Sink.holding, hempty]
  | true =>
    rw [probe_of_flush_fails hflush hfits]
    simp [Sink.reported, Sink.holding, hempty]

theorem written_of_unlimited (op : Operation) (payload : Payload) :
    (p.probe op payload {} replies).sink.written = p.report op payload replies :=
  written_of_room p replies rfl rfl op payload

theorem runAll_unlimited :
    p.runAll {} replies =
      { result := .ok ()
        sink := { written := p.deployReport replies ++ p.callReport replies, flushes := 2 }
        trace := (p.deployTrace replies).andThen (p.callTrace replies) } := by
  rw [runAll_of_fits rfl (by intro room hr; cases hr)]
  simp [Sink.reported, Sink.holding]

/-- A run into a sink that works is the run that nothing hinders. -/
theorem runAll_of_works {sink : Sink} (h : sink.Works) :
    (p.runAll sink replies).result = .ok () ∧
    (p.runAll sink replies).sink.written = (p.runAll {} replies).sink.written ∧
    (p.runAll sink replies).trace = (p.runAll {} replies).trace := by
  obtain ⟨hroom, hflush, hempty⟩ := h
  have hfits : sink.Fits (p.deployReport replies ++ p.callReport replies) := by
    intro room hr
    rw [hroom] at hr
    cases hr
  rw [runAll_of_fits hflush hfits, runAll_unlimited]
  refine ⟨rfl, ?_, rfl⟩
  simp [Sink.reported, Sink.holding, hempty]

/-- A run into a full sink ends with the deploy, of which nothing is written. -/
theorem runAll_of_full {sink : Sink} (h : sink.IsFull) :
    (p.runAll sink replies).result = .error sink.whenFull ∧
    (p.runAll sink replies).sink.written = [] ∧
    (p.runAll sink replies).trace = p.deployTrace replies := by
  obtain ⟨hroom, hempty⟩ := h
  have hreport : 0 < (p.deployReport replies).length :=
    List.length_pos_iff.mpr (Report.bytes_ne_nil _ _)
  rw [runAll_of_deploy_overrun hroom hreport]
  refine ⟨rfl, ?_, rfl⟩
  simp [Sink.overrun, hempty]

/-- Limited room cuts the output of the unlimited run at its own length. -/
theorem runAll_limited (room : Nat) :
    let d := (p.deployReport replies).length
    let c := (p.callReport replies).length
    p.runAll { room := some room } replies =
      { result := if d + c ≤ room then .ok () else .error .full
        sink :=
          { room := some (room - (d + c))
            written := (p.deployReport replies ++ p.callReport replies).take room
            flushes := if room < d then 0 else if room < d + c then 1 else 2 }
        trace :=
          if room < d then p.deployTrace replies
          else (p.deployTrace replies).andThen (p.callTrace replies) } := by
  intro d c
  by_cases hd : room < d
  · have hdc : ¬ d + c ≤ room := by omega
    have hz : room - (d + c) = 0 := by omega
    rw [runAll_of_deploy_overrun rfl hd, List.take_append_of_le_length (Nat.le_of_lt hd)]
    simp [hd, hdc, hz, Sink.overrun]
  · have hfits : Sink.Fits { room := some room } (p.deployReport replies) := by
      intro r hr
      cases hr
      exact Nat.le_of_not_lt hd
    have hle : d ≤ room := Nat.le_of_not_lt hd
    have hroom : (Sink.reported { room := some room } (p.deployReport replies)).room =
        some (room - d) := rfl
    by_cases hc : room < d + c
    · have hdc : ¬ d + c ≤ room := by omega
      have hz : room - (d + c) = 0 := by omega
      have hleft : room - d < c := by omega
      rw [runAll_of_call_overrun rfl hfits hroom hleft, List.take_append,
        List.take_of_length_le hle]
      simp [hd, hc, hdc, hz, Sink.overrun, Sink.reported, Sink.holding, d]
    · have hdc : d + c ≤ room := Nat.le_of_not_lt hc
      have hboth : Sink.Fits { room := some room }
          (p.deployReport replies ++ p.callReport replies) := by
        intro r hr
        cases hr
        rw [List.length_append]
        exact hdc
      rw [runAll_of_fits rfl hboth, List.take_of_length_le (by rw [List.length_append]; exact hdc)]
      simp [hd, hc, hdc, Sink.reported, Sink.holding, d, c, Nat.sub_sub]

/-- If the flush fails, the output ends with the deploy report at the latest. -/
theorem runAll_limited_flush_fails (room : Nat) :
    let d := (p.deployReport replies).length
    p.runAll { room := some room, flushFails := true } replies =
      { result := if d ≤ room then .error .flushFailed else .error .full
        sink :=
          { room := some (room - d)
            flushFails := true
            written := (p.deployReport replies).take room
            flushes := if d ≤ room then 1 else 0 }
        trace := p.deployTrace replies } := by
  intro d
  by_cases hd : d ≤ room
  · have hfits : Sink.Fits { room := some room, flushFails := true } (p.deployReport replies) := by
      intro r hr
      cases hr
      exact hd
    rw [runAll_of_flush_fails rfl hfits, List.take_of_length_le hd]
    simp [hd, Sink.reported, Sink.holding, d]
  · have hz : room - d = 0 := by omega
    rw [runAll_of_deploy_overrun rfl (Nat.lt_of_not_le hd)]
    simp [hd, hz, Sink.overrun]

/-- A run that nothing hinders is the probe of the deploy sample, and on the replies that it left
the probe of the call sample; `D` and `C` are their reports. With limited room and a flush that
works, a run writes what fits of the same bytes, fails as soon as they do not fit, flushes after
each whole report, and sends the call if and only if the deploy report was written. With a flush
that fails, the call is never sent. The traces do not depend on the sinks of the probes that they
are compared with. -/
theorem runAll_interrupted (room : Nat) (lone : Sink) :
    let deploy := p.probe .deploy Operation.deploy.samplePayload lone replies
    let call := p.probe .call Operation.call.samplePayload lone deploy.trace.left
    let D := (p.probe .deploy Operation.deploy.samplePayload {} replies).sink.written
    let C := (p.probe .call Operation.call.samplePayload {} deploy.trace.left).sink.written
    let whole := p.runAll {} replies
    let cut := p.runAll { room := some room } replies
    let stuck := p.runAll { room := some room, flushFails := true } replies
    (D = Report.bytes .deploy (p.send .deploy Operation.deploy.samplePayload replies).1 ∧
      C = Report.bytes .call
        (p.send .call Operation.call.samplePayload deploy.trace.left).1) ∧
    (whole.result = .ok () ∧ whole.sink.written = D ++ C ∧ whole.sink.flushes = 2 ∧
      whole.trace = deploy.trace.andThen call.trace) ∧
    (cut.sink.written = (D ++ C).take (min room (D.length + C.length)) ∧
      cut.result = (if D.length + C.length ≤ room then .ok () else .error .full) ∧
      cut.sink.flushes =
        (if room < D.length then 0 else if room < D.length + C.length then 1 else 2) ∧
      cut.trace = (if room < D.length then deploy.trace else whole.trace)) ∧
    (stuck.sink.written = D.take (min room D.length) ∧
      stuck.result = (if D.length ≤ room then .error .flushFailed else .error .full) ∧
      stuck.sink.flushes = (if D.length ≤ room then 1 else 0) ∧
      stuck.trace = deploy.trace) := by
  intro deploy call D C whole cut stuck
  have hdeploy : deploy.trace = p.deployTrace replies := probe_trace _ _ _ _ _
  have hcall : call.trace = p.callTrace replies := by
    rw [show call.trace = p.probeTrace .call _ deploy.trace.left from probe_trace _ _ _ _ _, hdeploy]
    rfl
  have hD : D = p.deployReport replies := written_of_unlimited _ _ _ _
  have hC : C = p.callReport replies := by
    rw [show C = p.report .call _ deploy.trace.left from written_of_unlimited _ _ _ _, hdeploy]
    rfl
  have hwhole : whole = _ := runAll_unlimited p replies
  have hcut : cut = _ := runAll_limited p replies room
  have hstuck : stuck = _ := runAll_limited_flush_fails p replies room
  rw [hD, hC, hdeploy, hcall, hwhole, hcut, hstuck]
  dsimp only
  refine ⟨⟨rfl, rfl⟩, ⟨rfl, rfl, rfl, rfl⟩, ⟨?_, rfl, rfl, rfl⟩, ?_, rfl, rfl, rfl⟩
  · rw [← List.length_append, ← List.take_take, List.take_length]
  · rw [← List.take_take, List.take_length]

end Prober

end SmokeProbe
