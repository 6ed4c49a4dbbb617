import SmokeProbe.Proofs.BoundedSink
import SmokeProbe.Proofs.CauseChain
import SmokeProbe.Proofs.DecimalText
import SmokeProbe.Proofs.SendHops

/-!
# Log and report of a probe

A probe tells twice how it ended: in the log when the exchange is over, and in the report, which may
be cut short. Both are made from the result of the send alone. The log opens with the request that
is about to be sent, before anything can fail but the encoding of the payload.
-/
namespace SmokeProbe

namespace Report

/-- The line that states a status. -/
def statusLine (op : Operation) (status : Nat) : String :=
  op.label ++ " API Response Status Code: " ++ String.ofList (Text.decimal status)

/-- The line about an error. -/
def errorLine (op : Operation) (description : String) : String :=
  "Error calling " ++ op.name ++ " API: " ++ description

theorem statusLine_injective {op : Operation} {m n : Nat} (h : statusLine op m = statusLine op n) :
    m = n := by
  have hdigits := congrArg String.toList h
  simp only [statusLine, String.toList_append, String.toList_ofList, List.append_cancel_left_eq]
    at hdigits
  exact Text.decimal_injective hdigits

theorem errorLine_injective {op : Operation} {s t : String} (h : errorLine op s = errorLine op t) :
    s = t := by
  have hchars := congrArg String.toList h
  simp only [errorLine, String.toList_append, List.append_cancel_left_eq] at hchars
  exact String.toList_inj.mp hchars

variable {op : Operation} {result : Except ProbeError Http.Outcome}

/-- Two lines, the first with a status, are about an outcome of that status. -/
theorem lines_eq_status {n : Nat} :
    (∃ second, lines op result = [statusLine op n, second]) ↔
      ∃ outcome, result = .ok outcome ∧ outcome.status = n := by
  constructor
  · rintro ⟨second, h⟩
    cases result with
    | ok outcome =>
      obtain ⟨hstatus, -⟩ := List.cons.inj h
      exact ⟨outcome, rfl, statusLine_injective hstatus⟩
    | error e => simp [lines] at h
  · rintro ⟨outcome, rfl, rfl⟩
    exact ⟨_, rfl⟩

/-- A single line with a description is about an error that is described like that. -/
theorem lines_eq_error {description : String} :
    lines op result = [errorLine op description] ↔
      ∃ e, result = .error e ∧ e.describe = description := by
  constructor
  · intro h
    cases result with
    | ok outcome => simp [lines] at h
    | error e =>
      obtain ⟨hline, -⟩ := List.cons.inj h
      exact ⟨e, rfl, errorLine_injective hline⟩
  · rintro ⟨e, rfl, rfl⟩
    rfl

end Report

namespace Prober

section
variable {op : Operation} {result : Except ProbeError Http.Outcome}

theorem closing_eq_completed {n : Nat} :
    closing op result = .completed op n ↔ ∃ outcome, result = .ok outcome ∧ outcome.status = n := by
  cases result <;> simp [closing]

theorem closing_eq_failed {t : String} :
    closing op result = .failed op t ↔ ∃ e, result = .error e ∧ e.message = t := by
  cases result <;> simp [closing]

/-- A closing event is a completion or a failure, whatever the result. -/
theorem closing_level :
    (closing op result).level = .info ∧ (∃ n, closing op result = .completed op n) ∨
      (closing op result).level = .warn ∧ ∃ t, closing op result = .failed op t := by
  cases result with
  | ok outcome => exact .inl ⟨rfl, _, rfl⟩
  | error e => exact .inr ⟨rfl, _, rfl⟩

/-- Event and report state one status. -/
theorem closing_completed_iff {n : Nat} :
    closing op result = .completed op n ↔
      ∃ second, Report.lines op result = [Report.statusLine op n, second] := by
  rw [closing_eq_completed, Report.lines_eq_status]

/-- Event and report tell of one error. -/
theorem closing_failed_iff :
    (∃ t, closing op result = .failed op t) ↔
      ∃ description, Report.lines op result = [Report.errorLine op description] := by
  simp only [closing_eq_failed, Report.lines_eq_error]
  constructor
  · rintro ⟨_, e, he, _⟩
    exact ⟨_, e, he, rfl⟩
  · rintro ⟨_, e, he, _⟩
    exact ⟨_, e, he, rfl⟩

/-- The report repeats the error of the event and only adds causes behind it. -/
theorem prefix_of_closing_failed {t description : String} (ht : closing op result = .failed op t)
    (hd : Report.lines op result = [Report.errorLine op description]) :
    t.toList <+: description.toList := by
  obtain ⟨e, he, rfl⟩ := closing_eq_failed.mp ht
  obtain ⟨e', he', rfl⟩ := Report.lines_eq_error.mp hd
  rw [he] at he'
  cases he'
  exact ProbeError.prefix_withCauses e.message e.causes

end

variable [Text.OtherCharsets]

/-- A send announces its request and logs nothing else. -/
theorem send_log_eq_sending (p : Prober) (op : Operation) (payload : Payload)
    (found : List Http.Reply) {url : Url} {n : Nat} :
    (p.send op payload found).2.log = [.sending url n] ↔
      url = p.endpoint op ∧
        ∃ body, payload.encode = .ok body ∧ (Text.Utf8.bytes body).length = n := by
  cases hencode : payload.encode with
  | error e => simp [p.send_of_error op found hencode, Trace.idle]
  | ok body =>
    simp [p.send_of_ok op found hencode, eq_comm]

/-- Log and report of a probe tell the same, whatever becomes of the report. The log opens with the
announcement of a request if and only if the payload has an encoding; it tells the length of the
body, which is the content length of the first request, and without it nothing is sent. One event
follows. It tells of a completion with a status exactly if the report has two lines and states this
status in the first, and of a failure exactly if the report is one line about an error, which then
begins with the error of the event. The sink changes neither log nor requests, and a send that is
not part of a probe logs the announcement only. -/
theorem probe_log (p : Prober) (op : Operation) (payload : Payload) (found : List Http.Reply) :
    let sent := p.send op payload found
    let lines := Report.lines op sent.1
    ((∃ url n, sent.2.log = [.sending url n]) ↔ ∃ body, payload.encode = .ok body) ∧
    (∀ url n, sent.2.log = [.sending url n] →
      url = p.endpoint op ∧
      (∀ body, payload.encode = .ok body → n = (Text.Utf8.bytes body).length) ∧
      ∀ first ∈ sent.2.requests.head?,
        first.valuesOf "content-length" = [String.ofList (Text.decimal n)]) ∧
    (¬ (∃ url n, sent.2.log = [.sending url n]) → sent.2.log = [] ∧ sent.2.requests = []) ∧
    ∃ last,
      (∀ sink, (p.probe op payload sink found).trace.log = sent.2.log ++ [last] ∧
        (p.probe op payload sink found).trace.requests = sent.2.requests) ∧
      (last.level = .info ∧ (∃ n, last = .completed op n) ∨
        last.level = .warn ∧ ∃ t, last = .failed op t) ∧
      (∀ n, last = .completed op n ↔ ∃ second, lines = [Report.statusLine op n, second]) ∧
      ((∃ t, last = .failed op t) ↔
        ∃ description, lines = [Report.errorLine op description]) ∧
      ∀ t description, last = .failed op t → lines = [Report.errorLine op description] →
        t.toList <+: description.toList := by
  intro sent lines
  have hsending : ∀ url n, sent.2.log = [.sending url n] ↔ url = p.endpoint op ∧
      ∃ body, payload.encode = .ok body ∧ (Text.Utf8.bytes body).length = n :=
    fun url n => p.send_log_eq_sending op payload found
  have hexists : (∃ url n, sent.2.log = [.sending url n]) ↔ ∃ body, payload.encode = .ok body := by
    simp only [hsending]
    constructor
    · rintro ⟨_, _, _, body, hencode, _⟩
      exact ⟨body, hencode⟩
    · rintro ⟨body, hencode⟩
      exact ⟨_, _, rfl, body, hencode, rfl⟩
  refine ⟨hexists, ?_, ?_, closing op sent.1, fun sink => ⟨rfl, rfl⟩, closing_level,
    fun n => closing_completed_iff, closing_failed_iff, fun t description =>
    prefix_of_closing_failed⟩
  · intro url n hlog
    obtain ⟨hurl, body, hencode, rfl⟩ := (hsending url n).mp hlog
    refine ⟨hurl, ?_, ?_⟩
    · intro body' hencode'
      rw [hencode] at hencode'
      cases hencode'
      rfl
    · intro first hfirst
      exact (p.send_posts op found hencode first hfirst).contentLength
  · rw [hexists]
    intro hnone
    cases hencode : payload.encode with
    | ok body => exact absurd ⟨body, hencode⟩ hnone
    | error e =>
      have hsent : sent = _ := p.send_of_error op found hencode
      rw [hsent]
      exact ⟨rfl, rfl⟩

end Prober

end SmokeProbe
