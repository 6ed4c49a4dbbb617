import SmokeProbe.Proofs.DecimalText
import SmokeProbe.Proofs.InterruptedRun
import SmokeProbe.Proofs.OneLineFailures

/-!
# Reading reports back

A report escapes nothing, and still tells what happened. Its first line opens in one of four ways,
none of which begins another, so the operation and whether the exchange was completed are known from
the opening. A status is written in digits and ends with its line. The body, or the description of
an error, is all the rest; where a second report follows, it is told apart from the first because no
failed exchange is described on more than one line.
-/
namespace SmokeProbe

namespace Report

/-- The characters of a whole report. -/
def text (op : Operation) (result : Except ProbeError Http.Outcome) : List Char :=
  (lines op result).flatMap fun line => line.toList ++ ['\n']

theorem bytes_eq_encode (op : Operation) (result : Except ProbeError Http.Outcome) :
    bytes op result = Text.Utf8.encode (text op result) := by
  unfold bytes text
  induction lines op result with
  | nil => rfl
  | cons line more ih =>
    rw [List.flatMap_cons, List.flatMap_cons, Text.Utf8.encode_append, Text.Utf8.encode_append, ih]
    rfl

/-- How the first line opens, before what depends on the exchange. -/
def opening (op : Operation) (completed : Bool) : List Char :=
  if completed then (op.label ++ " API Response Status Code: ").toList
  else ("Error calling " ++ op.name ++ " API: ").toList

/-- How the second line opens. -/
def bodyOpening (op : Operation) : List Char := (op.label ++ " API Response Body: ").toList

theorem text_ok (op : Operation) (outcome : Http.Outcome) (rest : List Char) :
    text op (.ok outcome) ++ rest =
      opening op true ++ (Text.decimal outcome.status ++ '\n' ::
        (bodyOpening op ++ (outcome.body.toList ++ '\n' :: rest))) := by
  simp [text, lines, opening, bodyOpening]

theorem text_error (op : Operation) (e : ProbeError) (rest : List Char) :
    text op (.error e) ++ rest = opening op false ++ (e.describe.toList ++ '\n' :: rest) := by
  simp [text, lines, opening]

/-- No opening begins another one. -/
theorem eq_of_opening_prefix {op op' : Operation} {completed completed' : Bool}
    (h : opening op completed <+: opening op' completed') :
    op = op' ∧ completed = completed' := by
  revert h
  cases op <;> cases op' <;> cases completed <;> cases completed' <;> decide

theorem eq_of_opening_append {op op' : Operation} {completed completed' : Bool}
    {s t : List Char} (h : opening op completed ++ s = opening op' completed' ++ t) :
    op = op' ∧ completed = completed' := by
  have hleft : opening op completed <+: opening op' completed' ++ t := ⟨s, h⟩
  rcases List.prefix_or_prefix_of_prefix hleft (List.prefix_append _ t) with hprefix | hprefix
  · exact eq_of_opening_prefix hprefix
  · obtain ⟨hop, hcompleted⟩ := eq_of_opening_prefix hprefix
    exact ⟨hop.symm, hcompleted.symm⟩

/-- Whether two exchanges have the same outcome, or failed with the same description. -/
def Agree : Except ProbeError Http.Outcome → Except ProbeError Http.Outcome → Prop
  | .ok outcome, .ok outcome' => outcome = outcome'
  | .error e, .error e' => e.describe = e'.describe
  | _, _ => False

/-- Whether what a report quotes is on one line. -/
def QuotesOneLine : Except ProbeError Http.Outcome → Prop
  | .ok outcome => '\n' ∉ outcome.body.toList
  | .error e => '\n' ∉ e.describe.toList

/-- A line without line feeds ends at the first one. -/
theorem line_inj {a b s t : List Char} (ha : '\n' ∉ a) (hb : '\n' ∉ b)
    (h : a ++ '\n' :: s = b ++ '\n' :: t) : a = b ∧ s = t := by
  have hfree : ∀ line : List Char, '\n' ∉ line → ∀ c ∈ line, (c == '\n') = false := by
    intro line hline c hc
    rw [beq_eq_false_iff_ne]
    rintro rfl
    exact hline hc
  have hcut := congrArg (Text.cut (· == '\n')) h
  rw [Text.cut_append s (hfree a ha) rfl, Text.cut_append t (hfree b hb) rfl] at hcut
  simpa using hcut

theorem lineFeed_not_mem_decimal (n : Nat) : '\n' ∉ Text.decimal n := fun h =>
  absurd (Text.isDigit_of_mem_decimal h) (by decide)

/-- A quote ends with its line, or where the text ends. -/
theorem quote_inj {a b s t : List Char} (hends : s = [] ∧ t = [] ∨ '\n' ∉ a ∧ '\n' ∉ b)
    (h : a ++ '\n' :: s = b ++ '\n' :: t) : a = b ∧ s = t := by
  rcases hends with ⟨rfl, rfl⟩ | ⟨ha, hb⟩
  · exact ⟨List.append_cancel_right h, rfl⟩
  · exact line_inj ha hb h

/-- Two reports that are the same, with nothing behind them, are about the same; and so are two
whose quotes are on one line, whatever is behind them. -/
theorem text_injective {op op' : Operation} {result result' : Except ProbeError Http.Outcome}
    {s t : List Char}
    (hends : s = [] ∧ t = [] ∨ QuotesOneLine result ∧ QuotesOneLine result')
    (h : text op result ++ s = text op' result' ++ t) :
    op = op' ∧ Agree result result' ∧ s = t := by
  cases result with
  | ok outcome =>
    cases result' with
    | ok outcome' =>
      rw [text_ok, text_ok] at h
      obtain ⟨rfl, -⟩ := eq_of_opening_append h
      obtain ⟨hstatus, hsecond⟩ := line_inj (lineFeed_not_mem_decimal _)
        (lineFeed_not_mem_decimal _) (List.append_cancel_left h)
      obtain ⟨hbody, hrest⟩ := quote_inj hends (List.append_cancel_left hsecond)
      refine ⟨rfl, ?_, hrest⟩
      change outcome = outcome'
      cases outcome
      cases outcome'
      simp only [Http.Outcome.mk.injEq]
      exact ⟨Text.decimal_injective hstatus, String.toList_inj.mp hbody⟩
    | error e' =>
      rw [text_ok, text_error] at h
      cases (eq_of_opening_append h).2
  | error e =>
    cases result' with
    | ok outcome' =>
      rw [text_error, text_ok] at h
      cases (eq_of_opening_append h).2
    | error e' =>
      rw [text_error, text_error] at h
      obtain ⟨rfl, -⟩ := eq_of_opening_append h
      obtain ⟨hdescribe, hrest⟩ := quote_inj hends (List.append_cancel_left h)
      exact ⟨rfl, String.toList_inj.mp hdescribe, hrest⟩

theorem agree_of_text_eq {op op' : Operation} {result result' : Except ProbeError Http.Outcome}
    (h : text op result = text op' result') : op = op' ∧ Agree result result' := by
  rw [← List.append_nil (text op result), ← List.append_nil (text op' result')] at h
  obtain ⟨hop, hagree, -⟩ := text_injective (.inl ⟨rfl, rfl⟩) h
  exact ⟨hop, hagree⟩

end Report

namespace Prober
variable [Text.OtherCharsets]

/-- The sample that is deployed has an encoding, so only the exchange can fail. -/
theorem quotesOneLine_of_deploy {c : Config} {p : Prober} (hp : ofConfig c = .ok p)
    {replies : List Http.Reply}
    (hbody : ∀ outcome, (p.send .deploy Operation.deploy.samplePayload replies).1 = .ok outcome →
      '\n' ∉ outcome.body.toList) :
    Report.QuotesOneLine (p.send .deploy Operation.deploy.samplePayload replies).1 := by
  cases hresult : (p.send .deploy Operation.deploy.samplePayload replies).1 with
  | ok outcome => exact hbody outcome hresult
  | error e =>
    have hencode : Operation.deploy.samplePayload.encode = .ok _ := rfl
    have hsent := congrArg Prod.fst (p.send_of_ok .deploy replies hencode)
    rw [hresult] at hsent
    obtain ⟨f, rfl⟩ : ∃ f, e = .transport f := by
      unfold sentResult at hsent
      split at hsent
      · cases hsent
      · cases hsent
        exact ⟨_, rfl⟩
    exact describe_oneLine hp hresult

/-- The report determines the outcome. Two probes that write the same text into sinks with room for
everything are probes of one operation with one outcome, or with one description of their errors.
The same holds of both halves of two runs that write the same text, unless the body of a deploy has
a line feed. -/
theorem report_determines :
    (∀ (p p' : Prober) (op op' : Operation) (payload payload' : Payload)
        (replies replies' : List Http.Reply) (sink sink' : Sink),
      sink.room = none → sink.written = [] → sink'.room = none → sink'.written = [] →
      (p.probe op payload sink replies).sink.written =
        (p'.probe op' payload' sink' replies').sink.written →
      op = op' ∧ Report.Agree (p.send op payload replies).1 (p'.send op' payload' replies').1) ∧
    ∀ (c c' : Config) (p p' : Prober) (replies replies' : List Http.Reply) (sink sink' : Sink),
      ofConfig c = .ok p → ofConfig c' = .ok p' → sink.Works → sink'.Works →
      let deploy := p.send .deploy Operation.deploy.samplePayload replies
      let deploy' := p'.send .deploy Operation.deploy.samplePayload replies'
      (∀ outcome, deploy.1 = .ok outcome → '\n' ∉ outcome.body.toList) →
      (∀ outcome, deploy'.1 = .ok outcome → '\n' ∉ outcome.body.toList) →
      (p.runAll sink replies).sink.written = (p'.runAll sink' replies').sink.written →
      Report.Agree deploy.1 deploy'.1 ∧
      Report.Agree (p.send .call Operation.call.samplePayload deploy.2.left).1
        (p'.send .call Operation.call.samplePayload deploy'.2.left).1 := by
  constructor
  · intro p p' op op' payload payload' replies replies' sink sink' hroom hempty hroom' hempty' h
    rw [written_of_room p replies hroom hempty, written_of_room p' replies' hroom' hempty', report,
      report, Report.bytes_eq_encode, Report.bytes_eq_encode] at h
    exact Report.agree_of_text_eq (Text.Utf8.encode_injective h)
  · intro c c' p p' replies replies' sink sink' hp hp' hworks hworks' deploy deploy' hbody hbody' h
    rw [(p.runAll_of_works replies hworks).2.1, (p'.runAll_of_works replies' hworks').2.1,
      runAll_unlimited, runAll_unlimited] at h
    simp only [deployReport, callReport, report, Report.bytes_eq_encode,
      ← Text.Utf8.encode_append] at h
    have htext := Text.Utf8.encode_injective h
    obtain ⟨-, hdeploy, hcalls⟩ := Report.text_injective
      (.inr ⟨quotesOneLine_of_deploy hp hbody, quotesOneLine_of_deploy hp' hbody'⟩) htext
    exact ⟨hdeploy, (Report.agree_of_text_eq hcalls).2⟩

end Prober

end SmokeProbe
