import Mathlib.Data.List.DropRight
import SmokeProbe.Probe.Prober
import SmokeProbe.Proofs.CanonicalUrl

/-!
# Joining base URLs and operations

An endpoint is its base URL with the path of an operation behind the base path, from which trailing
slashes are dropped. Dropping them drops empty segments at the end and touches nothing else, so the
parser finds segments in their final form and leaves them alone.
-/
namespace SmokeProbe

namespace Text

/-- A text without its trailing slashes. -/
def withoutSlashes (s : List Char) : List Char := s.rdropWhile (· == '/')

theorem withoutSlashes_slash (s : List Char) : withoutSlashes (s ++ ['/']) = withoutSlashes s :=
  List.rdropWhile_concat_pos _ _ _ rfl

theorem withoutSlashes_concat (s : List Char) {c : Char} (h : c ≠ '/') :
    withoutSlashes (s ++ [c]) = s ++ [c] :=
  List.rdropWhile_concat_neg _ _ _ (by simpa using h)

theorem withoutSlashes_replicate (s : List Char) (n : Nat) :
    withoutSlashes (s ++ List.replicate n '/') = withoutSlashes s := by
  induction n with
  | zero => rw [List.replicate_zero, List.append_nil]
  | succ n ih => rw [List.replicate_succ', ← List.append_assoc, withoutSlashes_slash, ih]

theorem withoutSlashes_split (s : List Char) :
    (∃ n, s = withoutSlashes s ++ List.replicate n '/') ∧
      (withoutSlashes s).getLast? ≠ some '/' := by
  induction s using List.reverseRecOn with
  | nil => exact ⟨⟨0, rfl⟩, nofun⟩
  | append_singleton s c ih =>
    by_cases hc : c = '/'
    · obtain ⟨⟨n, hn⟩, hlast⟩ := ih
      subst hc
      rw [withoutSlashes_slash]
      refine ⟨⟨n + 1, ?_⟩, hlast⟩
      rw [List.replicate_succ', ← List.append_assoc, ← hn]
    · rw [withoutSlashes_concat s hc]
      exact ⟨⟨0, by simp⟩, by simpa using hc⟩

end Text

namespace Url

/-! ## Paths -/

namespace Path

theorem led_append (d : Char) (a b : List (List Char)) :
    Text.led d (a ++ b) = Text.led d a ++ Text.led d b := List.flatMap_append

/-- The segments that are left when trailing slashes are dropped from their text. -/
theorem withoutSlashes_led {list : List String} (h : ∀ s ∈ list, IsFinal s.toList) :
    ∃ kept : List String, (∀ s ∈ kept, s ∈ list) ∧
      Text.withoutSlashes (Text.led '/' (list.map String.toList)) =
        Text.led '/' (kept.map String.toList) := by
  induction list using List.reverseRecOn with
  | nil => exact ⟨[], fun _ h => h, rfl⟩
  | append_singleton list s ih =>
    obtain ⟨hlist, hs⟩ := List.forall_mem_append.mp h
    have hfinal := hs s (List.mem_singleton_self s)
    have htext : Text.led '/' ((list ++ [s]).map String.toList) =
        Text.led '/' (list.map String.toList) ++ '/' :: s.toList := by
      rw [List.map_append, led_append]
      simp [Text.led]
    rcases List.eq_nil_or_concat s.toList with hempty | ⟨front, c, hconcat⟩
    · obtain ⟨kept, hkept, hled⟩ := ih hlist
      refine ⟨kept, fun t ht => List.mem_append_left _ (hkept t ht), ?_⟩
      rw [htext, hempty, Text.withoutSlashes_slash, hled]
    · refine ⟨list ++ [s], fun _ ht => ht, ?_⟩
      have hc : c ≠ '/' := by
        rintro rfl
        have hslash := hfinal.noSlash '/' (by simp [hconcat])
        cases hslash
      rw [htext, hconcat, List.concat_eq_append, ← List.cons_append, ← List.append_assoc,
        Text.withoutSlashes_concat _ hc]

/-- Segments behind a path that has lost its trailing slashes: all are read as they are. -/
theorem ofText_joined {p : Path} (hp : p.IsCanonical) {more : List String} (hne : more ≠ [])
    (hmore : ∀ s ∈ more, IsFinal s.toList) :
    let text := Text.withoutSlashes p.text ++ Text.led '/' (more.map String.toList)
    (ofText .network text).IsCanonical ∧ (ofText .network text).text = text := by
  intro text
  obtain ⟨list, rfl, _, hfinal⟩ := hp
  obtain ⟨kept, hkept, hled⟩ := withoutSlashes_led hfinal
  have hall : ∀ s ∈ kept ++ more, IsFinal s.toList :=
    List.forall_mem_append.mpr ⟨fun s hs => hfinal s (hkept s hs), hmore⟩
  have hne' : kept ++ more ≠ [] := by simp [hne]
  have htext : text = Text.led '/' ((kept ++ more).map String.toList) := by
    rw [List.map_append, led_append, ← hled]
    rfl
  rw [htext, ofText_led hne' hall]
  exact ⟨⟨_, rfl, hne', hall⟩, rfl⟩

/-- A segment that consists of dots, each written as itself or spelled out. -/
inductive SpellsDots : List Char → Nat → Prop
  | none : SpellsDots [] 0
  | plain (s : List Char) (n : Nat) : SpellsDots s n → SpellsDots ('.' :: s) (n + 1)
  | lower (s : List Char) (n : Nat) : SpellsDots s n → SpellsDots ('%' :: '2' :: 'e' :: s) (n + 1)
  | upper (s : List Char) (n : Nat) : SpellsDots s n → SpellsDots ('%' :: '2' :: 'E' :: s) (n + 1)

theorem plainDots_of_spellsDots {s : List Char} {n : Nat} (h : SpellsDots s n) :
    plainDots s = List.replicate n '.' := by
  induction h with
  | none => rfl
  | plain s n _ ih => rw [plainDots_cons (by decide), ih, List.replicate_succ]
  | lower s n _ ih => rw [plainDots, ih, List.replicate_succ]
  | upper s n _ ih => rw [plainDots, ih, List.replicate_succ]

theorem IsFinal.noDots {s : List Char} (h : IsFinal s) : ¬ SpellsDots s 1 ∧ ¬ SpellsDots s 2 := by
  constructor
  · intro hdots
    have hhere := h.notHere
    rw [isHere, plainDots_of_spellsDots hdots] at hhere
    cases hhere
  · intro hdots
    have hup := h.notUp
    rw [isUp, plainDots_of_spellsDots hdots] at hup
    cases hup

/-- What stands between the slashes of a canonical path. -/
theorem IsCanonical.pieces {p : Path} (h : p.IsCanonical) :
    ∀ s ∈ Text.pieces (· == '/') p.text, s = [] ∨ IsFinal s := by
  obtain ⟨list, rfl, hne, hfinal⟩ := h
  obtain ⟨t, rest, rfl⟩ := List.exists_cons_of_ne_nil hne
  have hslash : ∀ a ∈ t.toList :: rest.map String.toList, ∀ c ∈ a, (c == '/') = false := by
    intro a ha c hc
    obtain ⟨u, hu, rfl⟩ := List.mem_map.mp (show a ∈ (t :: rest).map String.toList from ha)
    exact (Bool.or_eq_false_iff.mp ((hfinal u hu).noSlash c hc)).1
  have hpieces : Text.pieces (· == '/') (Path.text (.segments (t :: rest))) =
      [] :: (t :: rest).map String.toList := by
    have htext : Path.text (.segments (t :: rest)) =
        '/' :: Text.joined '/' (t.toList :: rest.map String.toList) := rfl
    rw [htext, Text.pieces, if_pos (by rfl), Text.pieces_joined (by rfl) hslash]
    rfl
  intro s hs
  rw [hpieces] at hs
  rcases List.mem_cons.mp hs with rfl | hs
  · exact .inl rfl
  · obtain ⟨u, hu, rfl⟩ := List.mem_map.mp hs
    exact .inr (hfinal u hu)

end Path

/-- Two URLs that differ in nothing but how many slashes their paths end in. -/
def AgreeUpToSlashes (u v : Url) : Prop :=
  v = { u with path := v.path } ∧ ∃ front m n,
    u.path.text = front ++ List.replicate m '/' ∧ v.path.text = front ++ List.replicate n '/'

theorem withPath_canonical {u : Url} (hu : u.IsCanonical) {p : Path} (hp : p.IsCanonical) :
    ({ u with path := p } : Url).IsCanonical :=
  ⟨hu.scheme, hu.username, hu.password, hu.host, hu.port, hp, hu.query, hu.fragment⟩

end Url

/-- A base URL is read from its text. -/
theorem Config.parse_of_resolve {c : Config} {u : Url} (h : c.resolve = .ok u) :
    Url.parse c.baseUrlText = .ok u := by
  unfold resolve readBaseUrl at h
  cases hparse : Url.parse c.baseUrlText with
  | error fault => simp [hparse] at h
  | ok v =>
    by_cases hs : Http.isWebScheme v.scheme = true
    · by_cases hh : v.host = none
      · simp [hparse, hs, hh] at h
      · simpa [hparse, hs, hh] using h
    · simp [hparse, hs] at h

theorem Prober.resolve_of_ofConfig {c : Config} {p : Prober} (h : ofConfig c = .ok p) :
    c.resolve = .ok p.baseUrl := by
  unfold ofConfig at h
  cases hu : c.resolve with
  | error e =>
    rw [hu] at h
    cases h
  | ok u =>
    rw [hu] at h
    cases h
    rfl

theorem Config.resolve_canonical {c : Config} {u : Url} (h : c.resolve = .ok u) :
    u.IsCanonical ∧ Http.isWebScheme u.scheme = true := by
  unfold resolve readBaseUrl at h
  split at h
  · next v hv =>
    cases h
    split at hv
    · cases hv
    next w hw =>
    split at hv
    · cases hv
    next hweb =>
    split at hv
    · cases hv
    cases hv
    rw [Bool.not_eq_true, Bool.not_eq_false'] at hweb
    refine ⟨Url.parse_canonical hw ?_, hweb⟩
    simp only [Http.isWebScheme, Bool.or_eq_true, beq_iff_eq] at hweb
    rcases hweb with h | h <;> rw [Url.kind, h] <;> rfl
  · cases h

/-! ## Endpoints -/

namespace Operation

def segments : Operation → List String
  | .deploy => ["api", "dapp", "deploy"]
  | .call => ["api", "dapp", "call"]

theorem led_segments (op : Operation) :
    op.path.toList = Text.led '/' (op.segments.map String.toList) := by
  cases op <;> decide

theorem segments_ne_nil (op : Operation) : op.segments ≠ [] := by
  cases op <;> decide

theorem segments_final (op : Operation) : ∀ s ∈ op.segments, Url.Path.IsFinal s.toList := by
  have hall : ∀ s ∈ op.segments, (s.toList.all fun c =>
        decide (Url.Percent.inPath c = false ∧ Url.Path.isSlash .network c = false)) = true ∧
      Url.Path.isHere s.toList = false ∧ Url.Path.isUp s.toList = false := by
    cases op <;> decide
  intro s hs
  obtain ⟨hchars, hhere, hup⟩ := hall s hs
  have hchar := List.all_iff_forall_prop.mp hchars
  exact ⟨fun c hc => (hchar c hc).1, fun c hc => (hchar c hc).2, hhere, hup⟩

end Operation

namespace Prober

/-- An endpoint below a base URL: nothing of the base is lost, and nothing is read differently when
the endpoint is written and read again. -/
structure IsEndpoint (u : Url) (op : Operation) (e : Url) : Prop where
  base : e = { u with path := e.path }
  path : ∃ front n, u.path.text = front ++ List.replicate n '/' ∧ front.getLast? ≠ some '/' ∧
    e.path.text = front ++ op.path.toList
  noDots : ∀ s ∈ Text.pieces (· == '/') e.path.text,
    ¬ Url.Path.SpellsDots s 1 ∧ ¬ Url.Path.SpellsDots s 2
  parse : Url.parse e.text = .ok e

section
variable {u : Url} (hu : u.IsCanonical) (op : Operation)

theorem endpoint_path :
    ((mk u).endpoint op) = u.withPath (Text.withoutSlashes u.path.text ++ op.path.toList) := rfl

include hu

theorem endpoint_joined :
    (((mk u).endpoint op).path).IsCanonical ∧
      ((mk u).endpoint op).path.text = Text.withoutSlashes u.path.text ++ op.path.toList := by
  rw [endpoint_path, Url.withPath, hu.kind, op.led_segments]
  exact Url.Path.ofText_joined hu.path op.segments_ne_nil op.segments_final

theorem endpoint_canonical : ((mk u).endpoint op).IsCanonical :=
  Url.withPath_canonical hu (endpoint_joined hu op).1

theorem endpoint_isEndpoint : IsEndpoint u op ((mk u).endpoint op) := by
  obtain ⟨hcanonical, htext⟩ := endpoint_joined hu op
  obtain ⟨⟨n, hn⟩, hlast⟩ := Text.withoutSlashes_split u.path.text
  refine ⟨rfl, ⟨_, n, hn, hlast, htext⟩, ?_, Url.parse_text (endpoint_canonical hu op)⟩
  intro s hs
  rcases hcanonical.pieces s hs with rfl | hfinal
  · exact ⟨nofun, nofun⟩
  · exact hfinal.noDots

end

theorem endpoint_eq_iff {u v : Url} (hu : u.IsCanonical) (hv : v.IsCanonical) (op : Operation) :
    (mk u).endpoint op = (mk v).endpoint op ↔ u.AgreeUpToSlashes v := by
  constructor
  · intro h
    have htext := congrArg (fun e => e.path.text) h
    simp only [(endpoint_joined hu op).2, (endpoint_joined hv op).2] at htext
    have hfront := List.append_cancel_right htext
    obtain ⟨⟨m, hm⟩, _⟩ := Text.withoutSlashes_split u.path.text
    obtain ⟨⟨n, hn⟩, _⟩ := Text.withoutSlashes_split v.path.text
    have hbase := congrArg (fun e : Url => { e with path := v.path }) h
    exact ⟨hbase.symm, _, m, n, hm, hfront ▸ hn⟩
  · intro ⟨hbase, front, m, n, hm, hn⟩
    have hfront : Text.withoutSlashes u.path.text = Text.withoutSlashes v.path.text := by
      rw [hm, hn, Text.withoutSlashes_replicate, Text.withoutSlashes_replicate]
    rw [endpoint_path, endpoint_path, hfront, hbase]
    rfl

/-- Endpoint joining loses nothing of the base URL but slashes at the end of its path. -/
theorem endpoint_lossless {c c' : Config} {u v : Url} (hu : c.resolve = .ok u)
    (hv : c'.resolve = .ok v) (op : Operation) :
    IsEndpoint u op ((mk u).endpoint op) ∧
      ((mk u).endpoint op = (mk v).endpoint op ↔ u.AgreeUpToSlashes v) := by
  have hcu := (Config.resolve_canonical hu).1
  have hcv := (Config.resolve_canonical hv).1
  exact ⟨endpoint_isEndpoint hcu op, endpoint_eq_iff hcu hcv op⟩

/-- A base URL with two slashes at the end of its path has the endpoints of one with none. -/
theorem endpoint_lossless_slashes :
    let u : Url := {
      scheme := "http", username := "a"
      host := some (.ipv6 ⟨[0, 0, 0, 0, 0, 0, 0, 1], rfl, by decide⟩), port := some 8081
      path := .segments ["v1", "x%20y", "", ""], query := some "q=/", fragment := some "/" }
    let v : Url := { u with path := .segments ["v1", "x%20y"] }
    (({ baseUrl := some " http://a:@[0:0::1]:8081/v1/%2E/x y//?q=/#/" } : Config).resolve = .ok u ∧
      ({ baseUrl := some "http://a@[::1]:8081/v1/x%20y?q=/#/" } : Config).resolve = .ok v) ∧
    ((mk u).endpoint .deploy).text = "http://a@[::1]:8081/v1/x%20y/api/dapp/deploy?q=/#/" ∧
    IsEndpoint u .deploy ((mk u).endpoint .deploy) ∧
    ((mk u).endpoint .deploy = (mk v).endpoint .deploy ↔ u.AgreeUpToSlashes v) := by
  intro u v
  have hu : ({ baseUrl := some " http://a:@[0:0::1]:8081/v1/%2E/x y//?q=/#/" } : Config).resolve =
      .ok u := by decide +kernel
  have hv : ({ baseUrl := some "http://a@[::1]:8081/v1/x%20y?q=/#/" } : Config).resolve =
      .ok v := by decide +kernel
  exact ⟨⟨hu, hv⟩, by decide +kernel, endpoint_lossless hu hv .deploy⟩

end Prober

end SmokeProbe
