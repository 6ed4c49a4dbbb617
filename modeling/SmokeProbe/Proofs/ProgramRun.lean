import SmokeProbe.CommandLine
import SmokeProbe.Proofs.InterruptedRun

/-!
# The program and the run of its prober

The program adds three things to the run of a prober: it refuses invalid arguments, it shows the
events that the verbosity asks for, and it exits with a status. The verbosity reaches nothing but
the events that are shown; the peer reaches neither the status nor what is shown at the end. So each
run of the program is the run of the prober into the same standard output, with the ending that the
writing of the report calls for.
-/
namespace SmokeProbe

/-! ## Verbosity -/

namespace Verbosity

/-- The rank of the most verbose level that is shown. -/
def rank (v : Verbosity) : Nat := v.highest.elim 0 Level.rank

theorem shows_iff {v : Verbosity} {l : Level} : v.shows l = true ↔ l.rank ≤ v.rank := by
  unfold shows rank
  cases v.highest with
  | none => cases l <;> simp [Level.rank]
  | some h => simp

end Verbosity

namespace CommandLine

theorem logLines_append (time : String) (v : Verbosity) (a b : List Event) :
    logLines time v (a ++ b) = logLines time v a ++ logLines time v b := by
  unfold logLines
  rw [List.filter_append, List.flatMap_append]

/-- Of the same events, the ones shown at a lower verbosity are among those shown at a higher one,
in the same order. -/
theorem logLines_sublist (time : String) {v w : Verbosity} (h : v.rank ≤ w.rank)
    (log : List Event) : (logLines time v log).Sublist (logLines time w log) := by
  have hshows : ∀ e ∈ log, v.shows e.level = true → w.shows e.level = true := fun e _ hv =>
    Verbosity.shows_iff.mpr (Nat.le_trans (Verbosity.shows_iff.mp hv) h)
  induction log with
  | nil => exact .slnil
  | cons e log ih =>
    have hmore := ih fun e he => hshows e (List.mem_cons_of_mem _ he)
    rw [← List.singleton_append, logLines_append, logLines_append]
    refine List.Sublist.append ?_ hmore
    unfold logLines
    cases hv : v.shows e.level with
    | false => simp [hv]
    | true => simp [hv, hshows e List.mem_cons_self hv]

/-! ## Runs of the program -/

/-- The prober that the arguments of the program ask for. -/
def load (args : List String) : Except ProbeError Prober :=
  (Config.scan {} args).bind Prober.ofConfig

/-- What the program adds to a run whose report was written or not. -/
structure Ending where
  exit : Nat
  events : List Event
  closing : List String

def ending : Except SinkError Unit → Ending
  | .ok () => ⟨0, [], []⟩
  | .error e => ⟨1, [.unwritten e.message], ["Error: " ++ e.detail]⟩

variable [Text.OtherCharsets]

section
variable {args : List String} (v : Verbosity) (time : String) (stdout : Sink)
  (replies : List Http.Reply)

theorem run_of_error {e : ProbeError} (h : load args = .error e) :
    run args v time stdout replies = ⟨1, [], Text.lines e.message, []⟩ := by
  unfold load at h
  unfold run
  rw [h]

theorem run_of_ok {p : Prober} (h : load args = .ok p) :
    let w := p.runAll stdout replies
    let e := ending w.result
    run args v time stdout replies =
      ⟨e.exit, w.sink.written, logLines time v (w.trace.log ++ e.events) ++ e.closing,
        w.trace.requests⟩ := by
  intro w e
  unfold load at h
  unfold run
  rw [h]
  cases hw : w.result with
  | ok _ => simp [w, e, hw, ending]
  | error fault => simp [w, e, hw, ending]

end

/-- The events of a run of the program, shown or not. -/
def events (args : List String) (stdout : Sink) (replies : List Http.Reply) : List Event :=
  match load args with
  | .error _ => []
  | .ok p =>
    let w := p.runAll stdout replies
    w.trace.log ++ (ending w.result).events

/-- What the program says on standard error beside events. -/
def closing (args : List String) (stdout : Sink) (replies : List Http.Reply) : List String :=
  match load args with
  | .error e => Text.lines e.message
  | .ok p => (ending (p.runAll stdout replies).result).closing

/-- The verbosity decides which events are shown, and nothing else. -/
theorem run_stderr (args : List String) (v : Verbosity) (time : String) (stdout : Sink)
    (replies : List Http.Reply) :
    (run args v time stdout replies).stderr =
      logLines time v (events args stdout replies) ++ closing args stdout replies := by
  unfold events closing
  cases h : load args with
  | error e =>
    rw [run_of_error v time stdout replies h]
    rfl
  | ok p => rw [run_of_ok v time stdout replies h]

theorem run_verbosity (args : List String) (v w : Verbosity) (time other : String) (stdout : Sink)
    (replies : List Http.Reply) :
    { run args v time stdout replies with stderr := [] } =
      { run args w other stdout replies with stderr := [] } := by
  cases h : load args with
  | error e => rw [run_of_error v time stdout replies h, run_of_error w other stdout replies h]
  | ok p => rw [run_of_ok v time stdout replies h, run_of_ok w other stdout replies h]

/-- The program is the run of the prober that its arguments make, and an exit status. The verbosity
changes neither status, standard output nor requests, and of the events at most which are shown.
Without a prober the error is all there is. With standard output that works, the program succeeds
whatever the peer does, and it is the unhindered run; with a full one it fails, and has sent the
requests of the deploy and no others. -/
theorem run_refines (name : String) (args : List String) (replies : List Http.Reply) :
    let r := fun v time stdout => run args v time stdout replies
    (∀ v w time other stdout,
      (r v time stdout).exit = (r w other stdout).exit ∧
      (r v time stdout).stdout = (r w other stdout).stdout ∧
      (r v time stdout).requests = (r w other stdout).requests) ∧
    (match (Config.ofArgs (name :: args)).bind Prober.ofConfig with
      | .error e => ∀ v time stdout, r v time stdout = ⟨1, [], Text.lines e.message, []⟩
      | .ok p =>
        (∀ v time stdout, stdout.Works →
          (r v time stdout).exit = 0 ∧
          (r v time stdout).stdout = (p.runAll {} replies).sink.written ∧
          (r v time stdout).requests = (p.runAll {} replies).trace.requests) ∧
        ∀ v time stdout, stdout.IsFull →
          (r v time stdout).exit = 1 ∧ (r v time stdout).stdout = [] ∧
          (r v time stdout).requests =
            (p.send .deploy Operation.deploy.samplePayload replies).2.requests) ∧
    ∀ time stdout,
      let log := events args stdout replies
      (∀ v, (r v time stdout).stderr = logLines time v log ++ closing args stdout replies) ∧
      ∀ v w, v.rank ≤ w.rank → (logLines time v log).Sublist (logLines time w log) := by
  intro r
  refine ⟨?_, ?_, fun time stdout => ⟨?_, ?_⟩⟩
  · intro v w time other stdout
    have h := run_verbosity args v w time other stdout replies
    rw [Run.mk.injEq] at h
    exact ⟨h.1, h.2.1, h.2.2.2⟩
  · change match load args with | .error _ => _ | .ok _ => _
    cases h : load args with
    | error e => exact fun v time stdout => run_of_error v time stdout replies h
    | ok p =>
      refine ⟨fun v time stdout hworks => ?_, fun v time stdout hfull => ?_⟩
      · obtain ⟨hresult, hwritten, htrace⟩ := p.runAll_of_works replies hworks
        have hrun := run_of_ok v time stdout replies h
        simp only [hresult, hwritten, htrace] at hrun
        exact ⟨congrArg Run.exit hrun, congrArg Run.stdout hrun, congrArg Run.requests hrun⟩
      · obtain ⟨hresult, hwritten, htrace⟩ := p.runAll_of_full replies hfull
        have hrun := run_of_ok v time stdout replies h
        simp only [hresult, hwritten, htrace] at hrun
        exact ⟨congrArg Run.exit hrun, congrArg Run.stdout hrun, congrArg Run.requests hrun⟩
  · exact fun v => run_stderr args v time stdout replies
  · exact fun v w h => logLines_sublist time h _

end CommandLine

end SmokeProbe
