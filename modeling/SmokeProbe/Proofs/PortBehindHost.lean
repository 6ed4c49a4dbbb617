import SmokeProbe.Proofs.BaseUrlText
import SmokeProbe.Proofs.HostDelimiters

/-!
# Ports behind a host

An authority that ends in a colon and a port. Whatever stands in front of the colon, the port is
either read as the port or the whole is refused: no host ends in a port, and no port has a colon in
it. So the host that is read does not depend on which port it is.
-/
namespace SmokeProbe

namespace Url

/-! ## The end of a path -/

namespace Path

theorem mem_plainDots {c : Char} (hc : c ∉ ['%', '2', 'e', 'E']) {s : List Char} (h : c ∈ s) :
    c ∈ plainDots s := by
  simp only [List.mem_cons, List.not_mem_nil, or_false, not_or] at hc
  obtain ⟨h₁, h₂, h₃, h₄⟩ := hc
  fun_induction plainDots s with
  | case1 s ih => simp_all
  | case2 s ih => simp_all
  | case3 d s _ _ ih =>
    rcases List.mem_cons.mp h with rfl | h
    · exact List.mem_cons_self
    · exact List.mem_cons_of_mem _ (ih h)
  | case4 => cases h

/-- A last segment that is no dot segment is there in the end. -/
theorem resolve_last (done raw : List (List Char)) {s : List Char} (hup : isUp s = false)
    (hhere : isHere s = false) :
    ∃ rest, resolve .network done (raw ++ [s]) = Percent.encode Percent.inPath s :: rest := by
  induction raw generalizing done with
  | nil =>
    refine ⟨done, ?_⟩
    rw [List.nil_append, resolve, hup, hhere]
    simp only [Bool.false_eq_true, if_false]
    rw [finish_network]
    rfl
  | cons t raw ih =>
    rw [List.cons_append, resolve]
    exact ih _

/-- What stands behind the last slash of a path is still in it if it is no dot. -/
theorem mem_ofText {c : Char} (hc : c ∉ ['%', '2', 'e', 'E', '.']) (hpath : Percent.inPath c = false)
    {d : Char} (hd : isSlash .network d = true) {s t : List Char}
    (ht : ∀ x ∈ t, isSlash .network x = false) (hmem : c ∈ t) :
    c ∈ (ofText .network (d :: s ++ t)).text := by
  obtain ⟨init, last, hpieces⟩ := Text.pieces_end ht s
  have hraw : rawSegments .network (d :: s ++ t) = init ++ [last ++ t] := by
    rw [List.cons_append, rawSegments, if_pos hd, hpieces]
  have hdots : c ∈ plainDots (last ++ t) := by
    apply mem_plainDots _ (List.mem_append_right _ hmem)
    intro h
    exact hc (List.mem_append_left ['.'] h)
  have hnot : ∀ n, plainDots (last ++ t) ≠ List.replicate n '.' := by
    intro n h
    rw [h] at hdots
    exact hc (by rw [List.eq_of_mem_replicate hdots]; decide)
  obtain ⟨rest, hresolve⟩ := resolve_last [] init (s := last ++ t)
    (beq_eq_false_iff_ne.mpr (hnot 2)) (beq_eq_false_iff_ne.mpr (hnot 1))
  have htext : ∃ segments, ofText .network (d :: s ++ t) =
      .segments (segments ++ [String.ofList (Percent.encode Percent.inPath (last ++ t))]) := by
    refine ⟨rest.reverse.map String.ofList, ?_⟩
    rw [ofText, if_neg (by simp), ofTextBelow, below, hraw, List.map_nil, List.reverse_nil, hresolve]
    simp
  obtain ⟨segments, hsegments⟩ := htext
  rw [hsegments, text, Text.led, List.mem_flatMap]
  refine ⟨Percent.encode Percent.inPath (last ++ t), by simp, List.mem_cons_of_mem _ ?_⟩
  refine List.mem_flatMap.mpr ⟨c, List.mem_append_right _ hmem, ?_⟩
  rw [Percent.encodeChar_eq_self hpath]
  exact List.mem_singleton_self c

end Path

/-! ## The port behind a host -/

/-- What stands behind a host: a colon and the port. -/
def portBehind (port : UInt16) : List Char := ':' :: Text.decimal port.toNat

/-- A port as a URL under the plain scheme keeps it. -/
def keptPort (port : UInt16) : Option UInt16 := if port = 80 then none else some port

theorem effectivePort_kept {u : Url} {port : UInt16} (hscheme : u.scheme = "http")
    (h : u.port = keptPort port) : u.effectivePort = some port := by
  rw [effectivePort, h, hscheme, keptPort]
  by_cases hp : port = 80
  · rw [if_pos hp, hp]
    rfl
  · rw [if_neg hp]
    rfl

theorem portBehind_avoids (port : UInt16) {p : Char → Bool}
    (h : [':', '0', '1', '2', '3', '4', '5', '6', '7', '8', '9'].all (fun c => !p c) = true) :
    ∀ c ∈ portBehind port, p c = false := by
  intro c hc
  have hmem : c ∈ [':', '0', '1', '2', '3', '4', '5', '6', '7', '8', '9'] :=
    List.mem_cons.mpr ((List.mem_cons.mp hc).imp_right fun hc =>
      Text.mem_of_isDigit (Text.isDigit_of_mem_decimal hc))
  simpa using List.all_eq_true.mp h c hmem

/-- The colon in front of a port is where the port is cut off, or an earlier one is, or it stands
inside brackets. -/
theorem cutPort_colon (inside : Bool) (s : List Char) :
    (∀ t, cutPort inside (s ++ ':' :: t) = (s, some t)) ∨
    (∃ a b, ∀ t, cutPort inside (s ++ ':' :: t) = (a, some (b ++ ':' :: t))) ∨
    (∀ t, cutPort inside (s ++ ':' :: t) =
      (s ++ ':' :: (cutPort true t).1, (cutPort true t).2)) := by
  induction s generalizing inside with
  | nil =>
    cases inside with
    | false => exact .inl fun t => by simp [cutPort]
    | true => exact .inr (.inr fun t => by simp [cutPort])
  | cons c s ih =>
    by_cases hc : c = ':' ∧ inside = false
    · exact .inr (.inl ⟨[], s, fun t => by simp [cutPort, hc]⟩)
    · rcases ih (if c = '[' then true else if c = ']' then false else inside) with
        h | ⟨a, b, h⟩ | h
      · exact .inl fun t => by rw [List.cons_append, cutPort, if_neg hc, h]
      · exact .inr (.inl ⟨c :: a, b, fun t => by rw [List.cons_append, cutPort, if_neg hc, h]⟩)
      · exact .inr (.inr fun t => by rw [List.cons_append, cutPort, if_neg hc, h]; rfl)

theorem Host.bracketed_last {s : List Char} {h : Host} (hs : bracketed s = .ok h) :
    s.getLast? = some ']' := by
  unfold bracketed at hs
  split at hs
  · next hreverse => rw [← List.head?_reverse, hreverse, List.head?_cons]
  · cases hs

/-- A host does not end in a port. -/
theorem Host.parse_portBehind (s : List Char) (port : UInt16) (h : Host) :
    Host.parse (s ++ portBehind port) ≠ .ok h := by
  intro hs
  rcases Host.colon_of_parse hs with hopen | hcolon
  · obtain ⟨rest, hrest⟩ := List.head?_eq_some_iff.mp hopen
    rw [hrest, parse_bracketed] at hs
    have hlast : (s ++ portBehind port).getLast? = some ']' := by
      rw [hrest, List.getLast?_cons, bracketed_last hs]
      rfl
    have hmem : ']' ∈ portBehind port := by
      rw [List.getLast?_append_of_ne_nil s (show portBehind port ≠ [] from List.cons_ne_nil _ _)]
        at hlast
      exact List.mem_of_getLast? hlast
    have havoids := portBehind_avoids port (p := (· == ']')) (by decide) _ hmem
    cases havoids
  · exact hcolon (List.mem_append_right _ List.mem_cons_self)

theorem readPort_plain (port : UInt16) :
    readPort "http" (Text.decimal port.toNat) = .ok (keptPort port) := by
  have hdefault : defaultPort? "http" = some port ↔ port = 80 := by
    rw [show defaultPort? "http" = some 80 from rfl, Option.some.injEq]
    exact eq_comm
  rw [readPort_decimal, keptPort]
  simp only [hdefault]

/-- If a host is read in front of one port, it is read in front of any. -/
theorem hostAndPort_portBehind {s : List Char} {h : Host} {q : Option UInt16} {port : UInt16}
    (hs : hostAndPort "http" (s ++ portBehind port) = .ok (h, q)) (other : UInt16) :
    hostAndPort "http" (s ++ portBehind other) = .ok (h, keptPort other) := by
  have hdigits : cutPort true (Text.decimal port.toNat) = (Text.decimal port.toNat, none) := by
    have hinside := cutPort_inside (s := Text.decimal port.toNat) (fun c hc =>
      Text.ne_of_separated (d := ']') (Text.isDigit_of_mem_decimal hc) rfl) []
    simpa [cutPort] using hinside
  unfold hostAndPort at hs ⊢
  unfold portBehind at hs ⊢
  rcases cutPort_colon false s with hcut | ⟨a, b, hcut⟩ | hcut
  · rw [hcut] at hs ⊢
    simp only at hs ⊢
    split at hs
    · cases hs
    · next hne =>
      obtain ⟨h', hparse, hs⟩ := bind_eq_ok.mp hs
      obtain ⟨q', _, hs⟩ := bind_eq_ok.mp hs
      cases hs
      rw [if_neg hne, hparse, Option.getD_some, readPort_plain]
      rfl
  · -- The text behind an earlier colon has the other colon in it and is no port.
    exfalso
    rw [hcut] at hs
    simp only at hs
    split at hs
    · cases hs
    · obtain ⟨h', _, hs⟩ := bind_eq_ok.mp hs
      obtain ⟨q', hport, _⟩ := bind_eq_ok.mp hs
      have hdecimal : Text.decimal? (b ++ ':' :: Text.decimal port.toNat) = none := by
        cases hn : Text.decimal? (b ++ ':' :: Text.decimal port.toNat) with
        | none => rfl
        | some n =>
          have hcolon := Text.isDigit_of_decimal? hn ':' (List.mem_append_right b List.mem_cons_self)
          exact absurd hcolon (by decide)
      rw [Option.getD_some, readPort, if_neg (by simp), hdecimal] at hport
      cases hport
  · exfalso
    rw [hcut, hdigits] at hs
    simp only at hs
    split at hs
    · cases hs
    · obtain ⟨h', hparse, _⟩ := bind_eq_ok.mp hs
      exact Host.parse_portBehind s port h' hparse

/-- A text without user information in front of its last at sign. -/
def LacksUserinfo (s : List Char) : Prop :=
  '@' ∉ s ∨ ∃ back, '@' ∉ back ∧ (s = '@' :: back ∨ s = ':' :: '@' :: back)

theorem lacksUserinfo_split {front back : List Char} (hback : '@' ∉ back) :
    LacksUserinfo (front ++ '@' :: back) ↔ front = [] ∨ front = [':'] := by
  constructor
  · rintro (hat | ⟨rest, hrest, hs | hs⟩)
    · exact absurd (List.mem_append_right _ List.mem_cons_self) hat
    · cases front with
      | nil => exact .inl rfl
      | cons c front =>
        obtain ⟨-, rfl⟩ := List.cons.inj hs
        exact absurd (List.mem_append_right _ List.mem_cons_self) hrest
    · match front with
      | [] => cases (List.cons.inj hs).1
      | [c] => exact .inr (by rw [(List.cons.inj hs).1])
      | c :: d :: front =>
        obtain ⟨-, rfl⟩ := List.cons.inj (List.cons.inj hs).2
        exact absurd (List.mem_append_right _ List.mem_cons_self) hrest
  · rintro (rfl | rfl)
    · exact .inr ⟨back, hback, .inl rfl⟩
    · exact .inr ⟨back, hback, .inr rfl⟩

theorem encodeUserinfo_eq_empty {s : List Char} : encodeUserinfo s = "" ↔ s = [] := by
  rw [encodeUserinfo, String.ofList_eq_empty_iff]
  constructor
  · intro h
    cases s with
    | nil => rfl
    | cons c s =>
      rw [Percent.encode_cons, List.append_eq_nil_iff] at h
      exact absurd h.1 (Percent.encodeChar_ne_nil _ c)
  · rintro rfl
    rfl

theorem userinfo_eq_none {s : List Char} : userinfo s = ("", none) ↔ s = [] ∨ s = [':'] := by
  constructor
  · intro h
    cases s with
    | nil => exact .inl rfl
    | cons c s =>
      right
      unfold userinfo at h
      rw [Text.cut] at h
      by_cases hc : (c == ':') = true
      · rw [if_pos hc] at h
        cases s with
        | nil => rw [eq_of_beq hc]
        | cons d s => simp at h
      · rw [if_neg hc] at h
        split at h
        · simp at h
        · next name _ _ hcut =>
          rw [Prod.mk.injEq] at h hcut
          rw [encodeUserinfo_eq_empty, ← hcut.1] at h
          simp at h
  · rintro (rfl | rfl) <;> rfl

/-- An authority whose port stands last: it is read with any port in that place. -/
theorem networkAuthority_portBehind {s : List Char} {a : Authority} {port : UInt16}
    (h : networkAuthority "http" (s ++ portBehind port) = .ok a) :
    (∀ other, networkAuthority "http" (s ++ portBehind other) =
      .ok { a with port := keptPort other }) ∧
    (a.username = "" ∧ a.password = none ↔ LacksUserinfo s) := by
  have hat : ∀ port, ∀ c ∈ portBehind port, (c == '@') = false := fun port =>
    portBehind_avoids port (p := (· == '@')) (by decide)
  have hempty : ∀ info, (userinfo info).1 = "" ∧ (userinfo info).2 = none ↔
      info = [] ∨ info = [':'] := by
    intro info
    rw [← userinfo_eq_none, Prod.ext_iff]
  simp only [networkAuthority, Text.cutLast?_before (hat _)] at h ⊢
  rcases Text.cutLast?_cases (· == '@') s with ⟨hcut, hs⟩ | ⟨front, d, back, hcut, hd, hs, hback⟩
  · rw [hcut] at h ⊢
    simp only [Option.map_none, Option.getD_none] at h ⊢
    obtain ⟨⟨host, q⟩, hplace, h⟩ := bind_eq_ok.mp h
    cases h
    refine ⟨fun other => ?_, ?_⟩
    · rw [hostAndPort_portBehind hplace other]
      rfl
    · rw [hempty]
      simp only [true_or, true_iff]
      exact .inl fun hmem => by simpa using hs '@' hmem
  · rw [hcut] at h ⊢
    simp only [Option.map_some, Option.getD_some] at h ⊢
    obtain ⟨⟨host, q⟩, hplace, h⟩ := bind_eq_ok.mp h
    cases h
    refine ⟨fun other => ?_, ?_⟩
    · rw [hostAndPort_portBehind hplace other]
      rfl
    · have hback' : '@' ∉ back := fun hmem => by simpa using hback '@' hmem
      rw [hempty, hs, eq_of_beq hd, lacksUserinfo_split hback']

end Url

end SmokeProbe
