import SmokeProbe.Probe.Prober

/-!
# Writing into limited room

A sink takes what still fits and refuses the rest, piece by piece. The pieces of a report count
together only by their bytes: either all of them fit, or exactly the room is filled and the write
fails. A probe therefore leaves its sink in one of two ways, decided by the length of the report
alone, and what it sends, logs and consumes never depends on the sink.
-/
namespace SmokeProbe

namespace Sink

/-- Whether bytes still fit. -/
def Fits (sink : Sink) (bs : List UInt8) : Prop := ∀ room, sink.room = some room → bs.length ≤ room

/-- The sink with more bytes in it, all of which fit. -/
def holding (sink : Sink) (bs : List UInt8) : Sink :=
  { sink with room := sink.room.map (· - bs.length), written := sink.written ++ bs }

/-- The sink that was given more bytes than its room. -/
def overrun (sink : Sink) (room : Nat) (bs : List UInt8) : Sink :=
  { sink with room := some 0, written := sink.written ++ bs.take room }

theorem fits_append {sink : Sink} {a b : List UInt8} :
    sink.Fits (a ++ b) ↔ sink.Fits a ∧ (sink.holding a).Fits b := by
  unfold Fits holding
  cases sink.room with
  | none => simp
  | some room =>
    simp only [Option.some.injEq, Option.map_some, forall_eq', List.length_append]
    omega

theorem holding_nil (sink : Sink) : sink.holding [] = sink := by
  cases sink with
  | mk room => cases room <;> simp [holding]

theorem holding_append (sink : Sink) (a b : List UInt8) :
    (sink.holding a).holding b = sink.holding (a ++ b) := by
  unfold holding
  cases sink.room with
  | none => simp
  | some room => simp [Nat.sub_sub]

theorem flush_of_works {sink : Sink} (h : sink.flushFails = false) :
    sink.flush = ({ sink with flushes := sink.flushes + 1 }, .ok ()) := by
  simp [flush, h]

theorem flush_of_fails {sink : Sink} (h : sink.flushFails = true) :
    sink.flush = ({ sink with flushes := sink.flushes + 1 }, .error .flushFailed) := by
  simp [flush, h]

/-- The sink after a whole report: its bytes, and one flush. -/
def reported (sink : Sink) (bs : List UInt8) : Sink :=
  { sink.holding bs with flushes := sink.flushes + 1 }

theorem write_of_fits {sink : Sink} {bs : List UInt8} (h : sink.Fits bs) :
    sink.write bs = (sink.holding bs, .ok ()) := by
  unfold write holding
  cases hr : sink.room with
  | none => rfl
  | some room =>
    have hlen : bs.length ≤ room := h room hr
    simp [hlen, List.take_of_length_le hlen]

theorem write_of_overrun {sink : Sink} {room : Nat} {bs : List UInt8} (hr : sink.room = some room)
    (h : room < bs.length) :
    sink.write bs = (sink.overrun room bs, .error sink.whenFull) := by
  have hn : ¬ bs.length ≤ room := by omega
  have hz : room - bs.length = 0 := by omega
  unfold write overrun
  rw [hr]
  simp only [hn, hz, ↓reduceIte]

theorem writeAll_of_fits {sink : Sink} {pieces : List (List UInt8)}
    (h : sink.Fits pieces.flatten) :
    sink.writeAll pieces = (sink.holding pieces.flatten, .ok ()) := by
  induction pieces generalizing sink with
  | nil =>
    rw [List.flatten_nil, holding_nil]
    rfl
  | cons bs more ih =>
    rw [List.flatten_cons] at h ⊢
    obtain ⟨hb, hm⟩ := fits_append.mp h
    rw [writeAll, write_of_fits hb]
    simp only
    rw [ih hm, holding_append]

theorem writeAll_of_overrun {sink : Sink} {room : Nat} {pieces : List (List UInt8)}
    (hr : sink.room = some room) (h : room < pieces.flatten.length) :
    sink.writeAll pieces = (sink.overrun room pieces.flatten, .error sink.whenFull) := by
  induction pieces generalizing sink room with
  | nil => simp at h
  | cons bs more ih =>
    rw [List.flatten_cons] at h ⊢
    rw [List.length_append] at h
    by_cases hb : bs.length ≤ room
    · -- This piece fits, so the overrun happens in the room that it leaves.
      have hf : sink.Fits bs := by
        intro r hsr
        rw [hr] at hsr
        cases hsr
        exact hb
      have hleft : (sink.holding bs).room = some (room - bs.length) := by simp [holding, hr]
      rw [writeAll, write_of_fits hf]
      simp only
      rw [ih hleft (by omega)]
      simp [overrun, holding, List.take_append, List.take_of_length_le hb]
    · have hz : room - bs.length = 0 := by omega
      rw [writeAll, write_of_overrun hr (by omega)]
      simp [overrun, List.take_append, hz]

end Sink

namespace Prober

theorem writeReport_of_fits {sink : Sink} {lines : List String}
    (h : sink.Fits (lines.flatMap Report.lineBytes)) :
    writeReport sink lines = (sink.holding (lines.flatMap Report.lineBytes)).flush := by
  rw [List.flatMap_def] at h ⊢
  unfold writeReport
  rw [Sink.writeAll_of_fits h]

theorem writeReport_of_overrun {sink : Sink} {room : Nat} {lines : List String}
    (hr : sink.room = some room) (h : room < (lines.flatMap Report.lineBytes).length) :
    writeReport sink lines =
      (sink.overrun room (lines.flatMap Report.lineBytes), .error sink.whenFull) := by
  rw [List.flatMap_def] at h ⊢
  unfold writeReport
  rw [Sink.writeAll_of_overrun hr h]

variable [Text.OtherCharsets]

/-- The bytes that a probe has to report. -/
def report (p : Prober) (op : Operation) (payload : Payload) (replies : List Http.Reply) :
    List UInt8 :=
  Report.bytes op (p.send op payload replies).1

/-- What a probe does apart from reporting. -/
def probeTrace (p : Prober) (op : Operation) (payload : Payload) (replies : List Http.Reply) :
    Trace :=
  (p.send op payload replies).2.logging (closing op (p.send op payload replies).1)

@[simp] theorem probe_trace (p : Prober) (op : Operation) (payload : Payload) (sink : Sink)
    (replies : List Http.Reply) :
    (p.probe op payload sink replies).trace = p.probeTrace op payload replies := rfl

theorem probe_eq (p : Prober) (op : Operation) (payload : Payload) (sink : Sink)
    (replies : List Http.Reply) :
    p.probe op payload sink replies =
      ⟨(writeReport sink (Report.lines op (p.send op payload replies).1)).2,
        (writeReport sink (Report.lines op (p.send op payload replies).1)).1,
        p.probeTrace op payload replies⟩ := rfl

/-- A report that fits is written whole and flushed once. -/
theorem probe_of_fits {p : Prober} {op : Operation} {payload : Payload} {sink : Sink}
    {replies : List Http.Reply} (hf : sink.flushFails = false)
    (h : sink.Fits (p.report op payload replies)) :
    p.probe op payload sink replies =
      ⟨.ok (), sink.reported (p.report op payload replies), p.probeTrace op payload replies⟩ := by
  have hw : (sink.holding (p.report op payload replies)).flushFails = false := hf
  rw [probe_eq, writeReport_of_fits h]
  change Written.mk (sink.holding (p.report op payload replies)).flush.2
    (sink.holding (p.report op payload replies)).flush.1 _ = _
  rw [Sink.flush_of_works hw]
  rfl

/-- A report that fits is written whole, also if the flush then fails. -/
theorem probe_of_flush_fails {p : Prober} {op : Operation} {payload : Payload} {sink : Sink}
    {replies : List Http.Reply} (hf : sink.flushFails = true)
    (h : sink.Fits (p.report op payload replies)) :
    p.probe op payload sink replies =
      ⟨.error .flushFailed, sink.reported (p.report op payload replies),
        p.probeTrace op payload replies⟩ := by
  have hw : (sink.holding (p.report op payload replies)).flushFails = true := hf
  rw [probe_eq, writeReport_of_fits h]
  change Written.mk (sink.holding (p.report op payload replies)).flush.2
    (sink.holding (p.report op payload replies)).flush.1 _ = _
  rw [Sink.flush_of_fails hw]
  rfl

/-- A report that does not fit fills the room, and the sink is not flushed. -/
theorem probe_of_overrun {p : Prober} {op : Operation} {payload : Payload} {sink : Sink}
    {room : Nat} {replies : List Http.Reply} (hr : sink.room = some room)
    (h : room < (p.report op payload replies).length) :
    p.probe op payload sink replies =
      ⟨.error sink.whenFull, sink.overrun room (p.report op payload replies),
        p.probeTrace op payload replies⟩ := by
  rw [probe_eq, writeReport_of_overrun hr h]
  rfl

end Prober

end SmokeProbe
