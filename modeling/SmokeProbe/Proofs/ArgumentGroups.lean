import Mathlib.Data.List.Induction
import SmokeProbe.Probe.Config
import SmokeProbe.Proofs.DecimalText

/-!
# Arguments in groups

From left to right, arguments fall into groups: a flag takes the argument behind it, whatever that
is, and any other argument stands alone and means nothing. There is one such grouping. Reading
arguments is handling their groups one after the other, and a configuration depends on them by the
last value of each flag, unless a port is refused before.
-/
namespace SmokeProbe

/-! ## Groups -/

namespace Flag

theorem text_injective {f g : Flag} (h : f.text = g.text) : f = g := by
  revert h
  cases f <;> cases g <;> decide

theorem ofText?_text (f : Flag) : ofText? f.text = some f := by
  cases f <;> decide

theorem ofText?_eq_none {a : String} (h : ∀ f : Flag, f.text ≠ a) : ofText? a = none := by
  simp [ofText?, h]

end Flag

/-- A flag with its value, or an argument that means nothing. -/
inductive ArgumentGroup where
  | pair (flag : Flag) (value : String)
  | single (argument : String)
deriving DecidableEq, Repr

namespace ArgumentGroup

def arguments : ArgumentGroup → List String
  | .pair f value => [f.text, value]
  | .single a => [a]

/-- What a group does to a configuration. -/
def apply (c : Config) : ArgumentGroup → Except ProbeError Config
  | .pair f value => c.set value f
  | .single _ => .ok c

/-- A flag at the end, where it has no value. -/
def dangles : ArgumentGroup → Prop
  | .pair _ _ => False
  | .single a => ∃ f : Flag, f.text = a

end ArgumentGroup

open ArgumentGroup

/-- Arguments with their groups. A flag stands alone only if nothing is behind it. -/
inductive Grouped : List String → List ArgumentGroup → Prop
  | nil : Grouped [] []
  | pair {a value : String} {f : Flag} {args : List String} {gs : List ArgumentGroup} :
      f.text = a → Grouped args gs → Grouped (a :: value :: args) (.pair f value :: gs)
  | single {a : String} {args : List String} {gs : List ArgumentGroup} :
      (∀ f : Flag, f.text = a → args = []) → Grouped args gs →
      Grouped (a :: args) (.single a :: gs)

namespace Grouped
variable {args : List String} {gs : List ArgumentGroup}

theorem exists_groups (args : List String) : ∃ gs, Grouped args gs := by
  induction args using List.twoStepInduction with
  | nil => exact ⟨[], .nil⟩
  | singleton a => exact ⟨[.single a], .single (fun _ _ => rfl) .nil⟩
  | cons_cons a value args behind next =>
    by_cases hflag : ∃ f : Flag, f.text = a
    · obtain ⟨f, hf⟩ := hflag
      obtain ⟨gs, hgs⟩ := behind
      exact ⟨.pair f value :: gs, .pair hf hgs⟩
    · obtain ⟨gs, hgs⟩ := next value
      exact ⟨.single a :: gs, .single (fun f hf => absurd ⟨f, hf⟩ hflag) hgs⟩

theorem unique {gs' : List ArgumentGroup} (h : Grouped args gs) (h' : Grouped args gs') :
    gs = gs' := by
  induction h generalizing gs' with
  | nil =>
    cases h'
    rfl
  | pair hf _ ih =>
    cases h' with
    | pair hf' hrest => rw [ih hrest, Flag.text_injective (hf.trans hf'.symm)]
    | single halone _ => cases halone _ hf
  | single halone _ ih =>
    cases h' with
    | pair hf _ => cases halone _ hf
    | single _ hrest => rw [ih hrest]

theorem arguments_eq (h : Grouped args gs) : gs.flatMap arguments = args := by
  induction h with
  | nil => rfl
  | pair hf _ ih => rw [List.flatMap_cons, ih, arguments, hf]; rfl
  | single _ _ ih => rw [List.flatMap_cons, ih]; rfl

theorem ne_nil (h : Grouped args gs) (hgs : gs ≠ []) : args ≠ [] := by
  cases h with
  | nil => exact absurd rfl hgs
  | pair _ _ => exact List.cons_ne_nil _ _
  | single _ _ => exact List.cons_ne_nil _ _

/-- Groups without a dangling flag are the groups of their arguments whatever is behind them. -/
theorem append {args' : List String} {gs' : List ArgumentGroup} (h : Grouped args gs)
    (hends : ∀ g ∈ gs, ¬ g.dangles) (h' : Grouped args' gs') :
    Grouped (args ++ args') (gs ++ gs') := by
  induction h with
  | nil => exact h'
  | pair hf _ ih => exact .pair hf (ih fun g hg => hends g (List.mem_cons_of_mem _ hg))
  | single _ _ ih =>
    have hplain := hends _ List.mem_cons_self
    exact .single (fun f hf => absurd ⟨f, hf⟩ hplain)
      (ih fun g hg => hends g (List.mem_cons_of_mem _ hg))

/-- In front of another group no flag dangles. -/
theorem split {front back : List ArgumentGroup} (h : Grouped args (front ++ back))
    (hback : back ≠ []) :
    ∃ args', Grouped (front.flatMap arguments) front ∧ (∀ g ∈ front, ¬ g.dangles) ∧
      Grouped args' back := by
  induction front generalizing args with
  | nil => exact ⟨args, .nil, nofun, h⟩
  | cons g front ih =>
    cases h with
    | pair hf hrest =>
      obtain ⟨args', hfront, hends, hback'⟩ := ih hrest
      exact ⟨args', .pair rfl hfront, List.forall_mem_cons.mpr ⟨id, hends⟩, hback'⟩
    | single halone hrest =>
      obtain ⟨args', hfront, hends, hback'⟩ := ih hrest
      have hplain : ¬ dangles (.single _) := fun ⟨f, hf⟩ =>
        hrest.ne_nil (List.append_ne_nil_of_right_ne_nil _ hback) (halone f hf)
      exact ⟨args', .single (fun f hf => absurd ⟨f, hf⟩ hplain) hfront,
        List.forall_mem_cons.mpr ⟨hplain, hends⟩, hback'⟩

/-- Reading arguments is handling their groups. -/
theorem scan_eq (h : Grouped args gs) (c : Config) : c.scan args = gs.foldlM apply c := by
  induction h generalizing c with
  | nil => rfl
  | @pair a value f args gs hf _ ih =>
    rw [Config.scan, ← hf, Flag.ofText?_text, List.foldlM_cons, apply]
    simp only
    cases c.set value f with
    | ok d => exact ih d
    | error e => rfl
  | @single a args gs halone _ ih =>
    rw [List.foldlM_cons, apply, ok_bind, ← ih]
    cases args with
    | nil => rfl
    | cons value args =>
      have hnone := Flag.ofText?_eq_none fun f hf => List.cons_ne_nil _ _ (halone f hf)
      rw [Config.scan, hnone]

end Grouped

/-- Arguments at whose end reading stops between two groups, with no flag left without a value. -/
def EndsBetween (args : List String) : Prop := ∃ gs, Grouped args gs ∧ ∀ g ∈ gs, ¬ g.dangles

theorem Config.scan_append {args : List String} (h : EndsBetween args) (args' : List String)
    (c : Config) : c.scan (args ++ args') = (c.scan args).bind fun d => d.scan args' := by
  obtain ⟨gs, hgs, hends⟩ := h
  obtain ⟨gs', hgs'⟩ := Grouped.exists_groups args'
  rw [(hgs.append hends hgs').scan_eq, hgs.scan_eq, List.foldlM_append]
  refine congrArg _ ?_
  funext d
  exact (hgs'.scan_eq d).symm

/-! ## Swapped pairs -/

/-- The values of two flags can be set in either order. -/
theorem ArgumentGroup.apply_comm {f g : Flag} (hne : f ≠ g) (v w : String) (c : Config) :
    (apply c (.pair f v) >>= fun d => apply d (.pair g w)) =
      (apply c (.pair g w) >>= fun d => apply d (.pair f v)) := by
  simp only [apply]
  -- Only a port can be refused, and at most one of the two values is a port.
  cases f with
  | host =>
    cases g with
    | host => exact absurd rfl hne
    | port =>
      simp only [Config.set]
      cases readPort? w <;> rfl
    | baseUrl => rfl
  | port =>
    cases g with
    | host =>
      simp only [Config.set]
      cases readPort? v <;> rfl
    | port => exact absurd rfl hne
    | baseUrl =>
      simp only [Config.set]
      cases readPort? v <;> rfl
  | baseUrl =>
    cases g with
    | host => rfl
    | port =>
      simp only [Config.set]
      cases readPort? w <;> rfl
    | baseUrl => exact absurd rfl hne

theorem Config.scan_swap {args : List String} {front back : List ArgumentGroup} {f g : Flag}
    {v w : String} (h : Grouped args (front ++ .pair f v :: .pair g w :: back)) (hne : f ≠ g)
    (c : Config) :
    let swapped := front ++ .pair g w :: .pair f v :: back
    Grouped (swapped.flatMap arguments) swapped ∧
      c.scan (swapped.flatMap arguments) = c.scan args := by
  intro swapped
  obtain ⟨args', hfront, hends, hpairs⟩ := h.split (List.cons_ne_nil _ _)
  have hswapped : Grouped (swapped.flatMap arguments) swapped := by
    cases hpairs with
    | pair _ hpairs =>
      cases hpairs with
      | pair _ hback =>
        rw [List.flatMap_append, List.flatMap_cons, List.flatMap_cons, hback.arguments_eq]
        exact hfront.append hends (.pair rfl (.pair rfl hback))
  refine ⟨hswapped, ?_⟩
  rw [hswapped.scan_eq, h.scan_eq, List.foldlM_append, List.foldlM_append]
  refine congrArg _ ?_
  funext d
  simp only [List.foldlM_cons, ← bind_assoc, apply_comm hne]

/-! ## What a configuration depends on -/

/-- The texts of a port: digits that make a number in its range, however many zeros are in front of
them, with at most one plus sign before. -/
def WritesPort (s : String) (p : UInt16) : Prop :=
  ∃ sign digits, s.toList = sign ++ digits ∧ (sign = [] ∨ sign = ['+']) ∧ digits ≠ [] ∧
    (∀ d ∈ digits, '0' ≤ d ∧ d ≤ '9') ∧ Nat.ofDigitChars 10 digits 0 = p.toNat

theorem portOf_eq_some {digits : List Char} {p : UInt16} :
    ((Text.decimal? digits).bind fun n => if n ≤ 65535 then some (UInt16.ofNat n) else none) =
        some p ↔
      digits ≠ [] ∧ (∀ d ∈ digits, '0' ≤ d ∧ d ≤ '9') ∧ Nat.ofDigitChars 10 digits 0 = p.toNat := by
  have hp := p.toNat_lt
  simp only [Option.bind_eq_some_iff, Text.decimal?_eq_some, Text.isDigit_iff]
  constructor
  · rintro ⟨n, ⟨hne, hdigits, rfl⟩, hn⟩
    split at hn
    · next hle =>
      refine ⟨hne, hdigits, ?_⟩
      rw [← Option.some.inj hn, UInt16.toNat_ofNat_of_lt' (Nat.lt_succ_of_le hle)]
    · cases hn
  · intro ⟨hne, hdigits, hvalue⟩
    refine ⟨p.toNat, ⟨hne, hdigits, hvalue⟩, ?_⟩
    rw [if_pos (Nat.le_of_lt_succ hp), UInt16.ofNat_toNat]

theorem readPort?_eq_some {s : String} {p : UInt16} : readPort? s = some p ↔ WritesPort s p := by
  unfold readPort? WritesPort
  constructor
  · intro h
    have hdigits := portOf_eq_some.mp h
    split at hdigits
    · next ds hs => exact ⟨['+'], ds, hs, .inr rfl, hdigits⟩
    · exact ⟨[], _, rfl, .inl rfl, hdigits⟩
  · rintro ⟨sign, digits, hs, rfl | rfl, hdigits⟩
    · rw [List.nil_append] at hs
      rw [hs]
      refine portOf_eq_some.mpr ?_
      split
      · have hplus := hdigits.2.1 '+' List.mem_cons_self
        exact absurd hplus (by decide)
      · exact hdigits
    · rw [hs]
      exact portOf_eq_some.mpr hdigits

namespace ArgumentGroup

def valueOf? (f : Flag) : ArgumentGroup → Option String
  | .pair g value => if g = f then some value else none
  | .single _ => none

end ArgumentGroup

/-- The values of a flag, in the order in which they are read. -/
def valuesOf (f : Flag) (gs : List ArgumentGroup) : List String := gs.filterMap (valueOf? f)

/-- A port that is refused although none before it is. -/
def FirstRefused (gs : List ArgumentGroup) (t : String) : Prop :=
  ∃ front back, gs = front ++ .pair .port t :: back ∧
    (∀ s ∈ valuesOf .port front, ∃ p, WritesPort s p) ∧ ∀ p, ¬ WritesPort t p

/-- A configuration in which each field comes from the last value of its flag, or was there from
the start. -/
structure LastValues (gs : List ArgumentGroup) (start c : Config) : Prop where
  host : c.host = (valuesOf .host gs).getLast?.getD start.host
  port : (valuesOf .port gs).getLast?.elim (c.port = start.port) fun s => WritesPort s c.port
  baseUrl : c.baseUrl = (valuesOf .baseUrl gs).getLast?.or start.baseUrl

theorem valuesOf_concat (f : Flag) (gs : List ArgumentGroup) (g : ArgumentGroup) :
    valuesOf f (gs ++ [g]) = valuesOf f gs ++ (g.valueOf? f).toList := by
  rw [valuesOf, List.filterMap_append]
  cases h : g.valueOf? f <;> simp [h, valuesOf]

theorem LastValues.single {gs : List ArgumentGroup} {start c : Config}
    (h : LastValues gs start c) (a : String) : LastValues (gs ++ [.single a]) start c := by
  obtain ⟨hhost, hport, hbase⟩ := h
  constructor <;> simpa [valuesOf_concat, valueOf?]

theorem LastValues.set {gs : List ArgumentGroup} {start c d : Config} {f : Flag} {value : String}
    (h : LastValues gs start c) (hset : c.set value f = .ok d) :
    LastValues (gs ++ [.pair f value]) start d := by
  obtain ⟨hhost, hport, hbase⟩ := h
  cases f with
  | host =>
    cases hset
    constructor <;> simp [valuesOf_concat, valueOf?, hport, hbase]
  | port =>
    rw [Config.set] at hset
    split at hset
    · next p hp =>
      cases hset
      constructor <;> simp [valuesOf_concat, valueOf?, hhost, hbase, readPort?_eq_some.mp hp]
    · cases hset
  | baseUrl =>
    cases hset
    constructor <;> simp [valuesOf_concat, valueOf?, hhost, hport]

theorem Config.port_of_set {c d : Config} {f : Flag} {value : String}
    (h : c.set value f = .ok d) (hf : f = .port) : ∃ p, WritesPort value p := by
  rw [hf, Config.set] at h
  split at h
  · next p hp => exact ⟨p, readPort?_eq_some.mp hp⟩
  · cases h

theorem Config.refused_of_set {c : Config} {f : Flag} {value : String} {e : ProbeError}
    (h : c.set value f = .error e) :
    f = .port ∧ e = .invalidPort value ∧ ∀ p, ¬ WritesPort value p := by
  cases f with
  | host => cases h
  | baseUrl => cases h
  | port =>
    rw [Config.set] at h
    split at h
    · cases h
    · next hnone =>
      cases h
      refine ⟨rfl, rfl, fun p hp => ?_⟩
      rw [readPort?_eq_some.mpr hp] at hnone
      cases hnone

/-- Handling groups ends with the first refused port, or takes the last values. -/
theorem foldlM_apply (gs : List ArgumentGroup) (start : Config) :
    (∃ t, FirstRefused gs t ∧ gs.foldlM apply start = .error (.invalidPort t)) ∨
      (∀ s ∈ valuesOf .port gs, ∃ p, WritesPort s p) ∧
        ∃ c, gs.foldlM apply start = .ok c ∧ LastValues gs start c := by
  induction gs using List.reverseRecOn with
  | nil => exact .inr ⟨nofun, start, rfl, ⟨rfl, rfl, rfl⟩⟩
  | append_singleton gs g ih =>
    rw [List.foldlM_append]
    rcases ih with ⟨t, ⟨front, back, hgs, hfront, ht⟩, herror⟩ | ⟨hports, c, hc, hlast⟩
    · refine .inl ⟨t, ⟨front, back ++ [g], by rw [hgs]; simp, hfront, ht⟩, ?_⟩
      rw [herror]
      rfl
    · rw [hc, ok_bind, List.foldlM_cons]
      cases g with
      | single a => exact .inr ⟨by simpa [valuesOf_concat, valueOf?], c, rfl, hlast.single a⟩
      | pair f value =>
        rw [apply]
        cases hset : c.set value f with
        | ok d =>
          refine .inr ⟨?_, d, rfl, hlast.set hset⟩
          rw [valuesOf_concat, List.forall_mem_append]
          refine ⟨hports, ?_⟩
          simpa [valueOf?] using fun hf => Config.port_of_set hset hf
        | error e =>
          obtain ⟨rfl, rfl, hrefused⟩ := Config.refused_of_set hset
          exact .inl ⟨value, ⟨gs, [], rfl, hports, hrefused⟩, rfl⟩

/-- Reading the arguments of a program, of which the first one is its name. The others fall into
groups in one way. The first `--port` whose value writes no port is refused, with the value as it
is; if there is none, each field has the last value of its flag or its default. So arguments that
end between two groups can be read first and those behind them from there on, and pairs of
different flags that stand side by side can change places. -/
theorem Config.ofArgs_groups :
    (∀ args : List String, ∃ gs, (∀ gs', Grouped (args.drop 1) gs' ↔ gs' = gs) ∧
      ((∃ t, FirstRefused gs t ∧ ofArgs args = .error (.invalidPort t)) ∨
        (∀ s ∈ valuesOf .port gs, ∃ p, WritesPort s p) ∧
          ∃ c, ofArgs args = .ok c ∧ LastValues gs {} c)) ∧
    (∀ args args' : List String, EndsBetween args → ∀ c : Config,
      c.scan (args ++ args') = (c.scan args).bind fun d => d.scan args') ∧
    (∀ (args : List String) (front back : List ArgumentGroup) (f g : Flag) (v w : String),
      Grouped args (front ++ .pair f v :: .pair g w :: back) → f ≠ g →
      let swapped := front ++ .pair g w :: .pair f v :: back
      Grouped (swapped.flatMap arguments) swapped ∧
        ∀ c : Config, c.scan (swapped.flatMap arguments) = c.scan args) := by
  refine ⟨fun args => ?_, fun args args' h c => scan_append h args' c, ?_⟩
  · obtain ⟨gs, hgs⟩ := Grouped.exists_groups (args.drop 1)
    refine ⟨gs, fun gs' => ⟨fun h => h.unique hgs, fun h => h ▸ hgs⟩, ?_⟩
    rw [ofArgs, hgs.scan_eq]
    exact foldlM_apply gs {}
  · intro args front back f g v w h hne swapped
    exact ⟨(scan_swap h hne {}).1, fun c => (scan_swap h hne c).2⟩

/-- The value of a flag may itself look like one. -/
example : Config.ofArgs ["probe", "--host", "--port", "80"] = .ok { host := "--port" } := by
  decide +kernel

end SmokeProbe
