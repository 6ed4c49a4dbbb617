import Mathlib.Data.List.TakeWhile
import Mathlib.Tactic.NthRewrite
import SmokeProbe.Proofs.DecimalText
import SmokeProbe.Url.Ipv4
import SmokeProbe.Url.Ipv6

/-!
# Written addresses

The written form of an address is read as that address. For the address of eight groups the run of
zeros that is left out comes back because it is as long as what the other groups leave.
-/
namespace SmokeProbe

namespace Text

theorem hexDigit?_digitChar : ∀ n < 16, hexDigit? n.digitChar = some n := by decide

theorem hexadecimal_digits (n : Nat) :
    ∃ ds, (hexadecimal n).mapM hexDigit? = some ds ∧ ofDigits 16 ds = n := by
  induction n using Nat.strongRecOn with
  | ind n ih =>
    unfold hexadecimal at ih ⊢
    by_cases hn : n < 16
    · refine ⟨[n], ?_, by simp [ofDigits]⟩
      rw [Nat.toDigits_of_lt_base hn, List.mapM_cons, hexDigit?_digitChar n hn]
      rfl
    · obtain ⟨ds, hds, hvalue⟩ := ih (n / 16) (by omega)
      refine ⟨ds ++ [n % 16], ?_, ?_⟩
      · rw [Nat.toDigits_of_base_le (by decide) (by omega), List.mapM_append, hds, List.mapM_cons,
          hexDigit?_digitChar _ (Nat.mod_lt _ (by decide))]
        rfl
      · rw [ofDigits] at hvalue ⊢
        rw [List.foldl_append, hvalue, List.foldl_cons, List.foldl_nil]
        omega

theorem hexadecimal_ne_nil (n : Nat) : hexadecimal n ≠ [] := Nat.toDigits_ne_nil

theorem hexadecimal?_hexadecimal (n : Nat) : hexadecimal? (hexadecimal n) = some n := by
  obtain ⟨ds, hds, hvalue⟩ := hexadecimal_digits n
  rw [hexadecimal?, number?, if_neg (by simpa using hexadecimal_ne_nil n), hds, Option.map_some,
    hvalue]

theorem isHexDigit_of_mem_hexadecimal {n : Nat} {c : Char} (h : c ∈ hexadecimal n) :
    isHexDigit c = true := by
  induction n using Nat.strongRecOn with
  | ind n ih =>
    unfold hexadecimal at ih h
    by_cases hn : n < 16
    · rw [Nat.toDigits_of_lt_base hn] at h
      rw [List.mem_singleton.mp h, isHexDigit, hexDigit?_digitChar n hn]
      rfl
    · rw [Nat.toDigits_of_base_le (by decide) (by omega)] at h
      rcases List.mem_append.mp h with h | h
      · exact ih (n / 16) (by omega) h
      · rw [List.mem_singleton.mp h, isHexDigit,
          hexDigit?_digitChar _ (Nat.mod_lt _ (by decide))]
        rfl

theorem toNat_lt_of_isHexDigit {c : Char} (h : isHexDigit c = true) : c.toNat < 0x67 := by
  rw [isHexDigit, hexDigit?] at h
  split at h
  · next hc => exact Nat.lt_of_le_of_lt hc.2 (by decide)
  split at h
  · next hc => exact Nat.lt_of_le_of_lt hc.2 (by decide)
  split at h
  · next hc => exact Nat.lt_of_le_of_lt hc.2 (by decide)
  · cases h

theorem isHexDigit_of_isDigit {c : Char} (h : isDigit c = true) : isHexDigit c = true := by
  rw [isDigit, digit?] at h
  split at h
  · next hc =>
    rw [isHexDigit, hexDigit?, if_pos hc]
    rfl
  · cases h

theorem mem_joined {A : Type} {d c : A} {parts : List (List A)} (h : c ∈ joined d parts) :
    c = d ∨ ∃ a ∈ parts, c ∈ a := by
  cases parts with
  | nil => cases h
  | cons a r =>
    rcases List.mem_append.mp h with h | h
    · exact .inr ⟨a, List.mem_cons_self, h⟩
    · obtain ⟨b, hb, hc⟩ := List.mem_flatMap.mp h
      rcases List.mem_cons.mp hc with rfl | hc
      · exact .inl rfl
      · exact .inr ⟨b, List.mem_cons_of_mem _ hb, hc⟩

end Text

namespace Url

namespace Ipv4
variable (a : Ipv4)

theorem number?_decimal : ∀ b < 256, number? (Text.decimal b) = some b := by decide +kernel

theorem byte_lt (i : Nat) : a.byte i < 256 := Nat.mod_lt _ (by decide)

theorem text_eq :
    a.text = Text.joined '.' [Text.decimal (a.byte 0), Text.decimal (a.byte 1),
      Text.decimal (a.byte 2), Text.decimal (a.byte 3)] := rfl

theorem mem_text {c : Char} (h : c ∈ a.text) : c = '.' ∨ Text.isDigit c = true := by
  rcases Text.mem_joined h with rfl | ⟨s, hs, hc⟩
  · exact .inl rfl
  · obtain ⟨i, _, rfl⟩ := List.mem_map.mp hs
    exact .inr (Text.isDigit_of_mem_decimal hc)

theorem isDot_decimal (n : Nat) : ∀ c ∈ Text.decimal n, isDot c = false := by
  intro c hc
  have hne : c ≠ '.' := Text.ne_of_separated (Text.isDigit_of_mem_decimal hc) rfl
  simpa [isDot] using hne

theorem parts_text : parts a.text = [Text.decimal (a.byte 0), Text.decimal (a.byte 1),
    Text.decimal (a.byte 2), Text.decimal (a.byte 3)] := by
  have hpieces := Text.pieces_joined (p := isDot) (d := '.') rfl (a := Text.decimal (a.byte 0))
    (r := [Text.decimal (a.byte 1), Text.decimal (a.byte 2), Text.decimal (a.byte 3)]) (by
      intro b hb
      simp only [List.mem_cons, List.not_mem_nil, or_false] at hb
      rcases hb with rfl | rfl | rfl | rfl <;> exact isDot_decimal _)
  rw [parts, text_eq, hpieces]
  exact if_neg (by simp [Text.decimal_ne_nil])

/-- The written address is one that a host has to be read as. -/
theorem isNumeric_text : isNumeric a.text = true := by
  have hdigits : (Text.decimal (a.byte 3)).all Text.isDigit = true :=
    List.all_eq_true.mpr fun c => Text.isDigit_of_mem_decimal
  rw [isNumeric, parts_text]
  simp [hdigits, Text.decimal_ne_nil]

theorem parse?_text : parse? a.text = some a := by
  have hnumbers : (parts a.text).mapM number? =
      some [a.byte 0, a.byte 1, a.byte 2, a.byte 3] := by
    rw [parts_text]
    simp [number?_decimal _ (a.byte_lt _)]
  have hsmall : ∀ i, ¬ 255 < a.byte i := fun i => by
    have := a.byte_lt i
    omega
  rw [parse?, hnumbers, Option.bind_some, ofNumbers?]
  simp only [List.getLast?_cons_cons, List.getLast?_singleton, List.dropLast_cons_cons,
    List.dropLast_singleton, List.length_cons, List.length_nil, List.any_cons, List.any_nil]
  rw [if_neg (by simp [hsmall, a.byte_lt])]
  obtain ⟨address⟩ := a
  congr 2
  apply UInt32.toNat_inj.mp
  have hlt : address.toNat < 2 ^ 32 := address.toNat_lt
  simp only [byte, Text.ofDigits, List.foldl_cons, List.foldl_nil, UInt32.toNat_ofNat',
    show Nat.pow 256 (3 - 0) = 16777216 from rfl, show Nat.pow 256 (3 - 1) = 65536 from rfl,
    show Nat.pow 256 (3 - 2) = 256 from rfl, show Nat.pow 256 (3 - 3) = 1 from rfl]
  omega

end Ipv4

namespace Ipv6

theorem isColon_hexadecimal (n : Nat) : ∀ c ∈ Text.hexadecimal n, isColon c = false := by
  intro c hc
  have hne : c ≠ ':' := Text.ne_of_separated (Text.isHexDigit_of_mem_hexadecimal hc) rfl
  simpa [isColon] using hne

theorem group?_hexadecimal {g : Nat} (h : g < 0x10000) : group? (Text.hexadecimal g) = some g := by
  have hlength : (Text.hexadecimal g).length ≤ 4 :=
    (Nat.length_toDigits_le_iff (by decide) (by decide)).mpr h
  rw [group?, if_pos hlength, Text.hexadecimal?_hexadecimal]

theorem groupsOf?_hexadecimal (atEnd : Bool) {gs : List Nat} (h : ∀ g ∈ gs, g < 0x10000) :
    groupsOf? atEnd (gs.map Text.hexadecimal) = some gs := by
  induction gs with
  | nil => rfl
  | cons g gs ih =>
    have hg := group?_hexadecimal (h g List.mem_cons_self)
    have hgs := ih fun x hx => h x (List.mem_cons_of_mem _ hx)
    cases gs with
    | nil =>
      have hdot : (Text.hexadecimal g).contains '.' = false := by
        rw [List.contains_eq_mem, decide_eq_false_iff_not]
        intro hmem
        exact Text.ne_of_separated (Text.isHexDigit_of_mem_hexadecimal hmem) rfl rfl
      simp only [List.map_cons, List.map_nil, groupsOf?, hdot, hg]
      simp
    | cons g' gs =>
      simp only [List.map_cons] at hgs ⊢
      rw [groupsOf?, hg, hgs]
      · rfl
      · simp

theorem split_textOf (gs : List Nat) : split (textOf gs) = gs.map Text.hexadecimal := by
  cases gs with
  | nil => rfl
  | cons g gs =>
    have hne : (textOf (g :: gs)).isEmpty = false := by
      rw [textOf, List.map_cons, Text.joined]
      simp [Text.hexadecimal_ne_nil]
    have hpieces := Text.pieces_joined (p := isColon) (d := ':') rfl (a := Text.hexadecimal g)
      (r := gs.map Text.hexadecimal) (by
        intro b hb
        obtain ⟨n, _, rfl⟩ := List.mem_map.mp (show b ∈ (g :: gs).map Text.hexadecimal from hb)
        exact isColon_hexadecimal n)
    rw [split, hne, textOf]
    exact hpieces

theorem cutDouble_cons {c : Char} (hc : c ≠ ':') (s : List Char) :
    cutDouble (c :: s) = (c :: (cutDouble s).1, (cutDouble s).2) := by
  cases s with
  | nil => rfl
  | cons d s => rw [cutDouble, if_neg fun h => hc h.1]

theorem cutDouble_append {s : List Char} (hs : ∀ c ∈ s, c ≠ ':') (t : List Char) :
    cutDouble (s ++ t) = (s ++ (cutDouble t).1, (cutDouble t).2) := by
  induction s with
  | nil => rfl
  | cons c s ih =>
    rw [List.cons_append, cutDouble_cons (hs c List.mem_cons_self),
      ih fun d hd => hs d (List.mem_cons_of_mem _ hd)]
    rfl

theorem hexadecimal_noColon (n : Nat) : ∀ c ∈ Text.hexadecimal n, c ≠ ':' := fun _ hc =>
  Text.ne_of_separated (Text.isHexDigit_of_mem_hexadecimal hc) rfl

/-- A single colon in front of a group is not the first of two. -/
theorem cutDouble_led (gs : List Nat) (t : List Char) :
    cutDouble (Text.led ':' (gs.map Text.hexadecimal) ++ t) =
      (Text.led ':' (gs.map Text.hexadecimal) ++ (cutDouble t).1, (cutDouble t).2) := by
  induction gs with
  | nil => rfl
  | cons g gs ih =>
    obtain ⟨c, s, hs⟩ := List.exists_cons_of_ne_nil (Text.hexadecimal_ne_nil g)
    have hc : c ≠ ':' := hexadecimal_noColon g c (by simp [hs])
    have hcut := cutDouble_append (hexadecimal_noColon g)
      (Text.led ':' (gs.map Text.hexadecimal) ++ t)
    have hled : Text.led ':' ((g :: gs).map Text.hexadecimal) =
        ':' :: (Text.hexadecimal g ++ Text.led ':' (gs.map Text.hexadecimal)) := rfl
    rw [ih, hs, List.cons_append] at hcut
    rw [hled, hs]
    simp only [List.cons_append, List.append_assoc]
    rw [cutDouble, if_neg fun h => hc h.2, hcut]
    simp

theorem cutDouble_textOf (gs : List Nat) (t : List Char) :
    cutDouble (textOf gs ++ t) = (textOf gs ++ (cutDouble t).1, (cutDouble t).2) := by
  cases gs with
  | nil => rfl
  | cons g gs =>
    rw [textOf, List.map_cons, Text.joined, List.append_assoc,
      cutDouble_append (hexadecimal_noColon g), cutDouble_led]
    simp

/-- What the longest run is: zeros only, and inside the list. -/
theorem longestRun_spec (start : Nat) (gs : List Nat) :
    ∃ skipped, (longestRun start gs).1 = start + skipped ∧
      gs = gs.take skipped ++ List.replicate (longestRun start gs).2 0 ++
        gs.drop (skipped + (longestRun start gs).2) := by
  induction gs generalizing start with
  | nil => exact ⟨0, rfl, rfl⟩
  | cons g gs ih =>
    obtain ⟨skipped, hstart, hrun⟩ := ih (start + 1)
    rw [longestRun]
    split
    · refine ⟨0, rfl, ?_⟩
      have hzeros : (g :: gs).takeWhile (· == 0) =
          List.replicate (leadingZeros (g :: gs)) 0 := by
        apply List.eq_replicate_of_mem
        intro x hx
        simpa using List.mem_takeWhile_imp hx
      have hsplit : (g :: gs).takeWhile (· == 0) ++ (g :: gs).dropWhile (· == 0) = g :: gs :=
        List.takeWhile_append_dropWhile
      have hdrop : (g :: gs).drop (leadingZeros (g :: gs)) = (g :: gs).dropWhile (· == 0) := by
        nth_rewrite 2 [← hsplit]
        exact List.drop_left' rfl
      rw [List.take_zero, List.nil_append, Nat.zero_add, hdrop, ← hzeros, hsplit]
    · refine ⟨skipped + 1, by rw [hstart]; omega, ?_⟩
      rw [List.take_succ_cons, Nat.add_right_comm, List.drop_succ_cons, List.cons_append,
        List.cons_append, ← hrun]

theorem parse?_text (a : Ipv6) : parse? a.text = some a := by
  obtain ⟨gs, hlength, hsmall⟩ := a
  suffices hgroups : allGroups? (Ipv6.text ⟨gs, hlength, hsmall⟩) = some gs by
    rw [parse?, hgroups, Option.bind_some, dif_pos ⟨hlength, hsmall⟩]
  obtain ⟨skipped, hstart, hrun⟩ := longestRun_spec 0 gs
  rw [Nat.zero_add] at hstart
  unfold Ipv6.text
  simp only [hstart]
  split
  · have hcut := cutDouble_textOf gs []
    rw [List.append_nil] at hcut
    rw [allGroups?, hcut]
    simp only [cutDouble, List.append_nil]
    rw [split_textOf, groupsOf?_hexadecimal true hsmall]
  · next hlong =>
    generalize (longestRun 0 gs).2 = length at hrun hlong
    have hcut := cutDouble_textOf (gs.take skipped)
      (':' :: ':' :: textOf (gs.drop (skipped + length)))
    have htotal := congrArg List.length hrun
    simp only [List.length_append, List.length_replicate, hlength] at htotal
    rw [allGroups?, hcut]
    simp only [cutDouble, and_self, if_true, List.append_nil]
    rw [split_textOf, split_textOf,
      groupsOf?_hexadecimal false fun g hg => hsmall g (List.mem_of_mem_take hg),
      groupsOf?_hexadecimal true fun g hg => hsmall g (List.mem_of_mem_drop hg)]
    simp only [Option.bind_eq_bind, Option.bind_some]
    rw [if_pos (by omega),
      show 8 - ((gs.take skipped).length + (gs.drop (skipped + length)).length) = length by omega,
      ← hrun]
    rfl

theorem mem_textOf {gs : List Nat} {c : Char} (h : c ∈ textOf gs) :
    c = ':' ∨ Text.isHexDigit c = true := by
  rcases Text.mem_joined h with rfl | ⟨s, hs, hc⟩
  · exact .inl rfl
  · obtain ⟨g, _, rfl⟩ := List.mem_map.mp hs
    exact .inr (Text.isHexDigit_of_mem_hexadecimal hc)

theorem mem_text {a : Ipv6} {c : Char} (h : c ∈ a.text) : c = ':' ∨ Text.isHexDigit c = true := by
  unfold text at h
  simp only at h
  split at h
  · exact mem_textOf h
  · rcases List.mem_append.mp h with h | h
    · exact mem_textOf h
    · simp only [List.mem_cons] at h
      rcases h with rfl | rfl | h
      · exact .inl rfl
      · exact .inl rfl
      · exact mem_textOf h

end Ipv6

end Url

end SmokeProbe
