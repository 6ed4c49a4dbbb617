import Mathlib.Data.List.Forall2
import SmokeProbe.Domain.Label
import SmokeProbe.Proofs.CapitalTables
import SmokeProbe.Proofs.Results

/-!
# Names without capitals

What a name stands for, in normal form, has no capital ASCII letter. No character stands for a
capital, accented or not, so decomposition has nothing to take a capital out of; and composition
makes no ASCII character.
-/
namespace SmokeProbe

namespace Unicode

/-- A character that is no capital and not decomposed into one. -/
def Spared (c : Char) : Prop := isCapital c.toNat = false

theorem toNat_ofNat (n : Nat) : (Char.ofNat n).toNat = n ∨ (Char.ofNat n).toNat = 0 := by
  by_cases h : n.isValidChar
  · exact .inl (congrArg Char.toNat (dif_pos h))
  · exact .inr (congrArg Char.toNat (dif_neg h))

theorem spared_ofNat {n : Nat} (h : isCapital n = false) : Spared (Char.ofNat n) := by
  unfold Spared
  rcases toNat_ofNat n with hn | hn
  · rwa [hn]
  · rw [hn]
    rfl

theorem isCapital_between {n : Nat} (hlow : 0x233 ≤ n) (hhigh : n < 0x1e00) :
    isCapital n = false := by
  rw [isCapital, if_neg (by omega), if_neg (by omega), if_pos hhigh]

theorem toLower_eq_self {c : Char} (h : ¬ (0x41 ≤ c.toNat ∧ c.toNat ≤ 0x5a)) : c.toLower = c :=
  dif_neg h

theorem Spared.toLower {c : Char} (h : Spared c) : c.toLower = c := by
  apply toLower_eq_self
  intro hletter
  rw [Spared, isCapital, if_pos (by omega), decide_eq_true hletter.1,
    decide_eq_true hletter.2] at h
  cases h

theorem spared_toLower {c : Char} (h : c.toNat < 0x80) : Spared c.toLower :=
  Text.forall_of_codes (P := fun c => isCapital c.toLower.toNat = false) (by decide) h

/-! ## Entries -/

/-- What an entry gives for a character. -/
def Entry.images (e : Entry) (c : Char) : List Char :=
  match e.value with
  | [a] => [Char.ofNat (a + e.offset c)]
  | ns => ns.map Char.ofNat

theorem Entry.sparesCapitals_covers {p : Nat → Bool} {e : Entry} (h : e.sparesCapitals p = true)
    {c : Char} (hc : e.covers c = true) : p c.toNat = true ∨ ∀ d ∈ e.images c, Spared d := by
  simp only [covers, Bool.and_eq_true, decide_eq_true_eq, beq_iff_eq] at hc
  obtain ⟨⟨hfirst, hlast⟩, hstep⟩ := hc
  -- The character is as many steps behind the first one as `k` says.
  have hoffset : e.offset c = (e.offset c / e.step) * e.step :=
    (Nat.div_mul_cancel (Nat.dvd_of_mod_eq_zero hstep)).symm
  have hcode : e.first + (e.offset c / e.step) * e.step = c.toNat := by
    rw [← hoffset, offset]
    omega
  have hk : e.offset c / e.step ∈ List.range e.count := by
    rw [List.mem_range, count, offset, Nat.lt_succ_iff]
    exact Nat.div_le_div_right (by omega)
  have hcodes : ∀ ns : List Nat, ns.all (fun n => !isCapital n) = true →
      ∀ d ∈ ns.map Char.ofNat, Spared d := by
    intro ns hns d hd
    obtain ⟨n, hn, rfl⟩ := List.mem_map.mp hd
    have hn := List.all_eq_true.mp hns n hn
    exact spared_ofNat (by simpa using hn)
  rw [sparesCapitals] at h
  rw [images]
  match hvalue : e.value with
  | [] =>
    right
    exact nofun
  | [a] =>
    rw [hvalue] at h
    have hhere := List.all_eq_true.mp h _ hk
    rw [hcode, ← hoffset, Bool.or_eq_true, Bool.not_eq_true'] at hhere
    rcases hhere with hspared | hp
    · exact .inr (List.forall_mem_singleton.mpr (spared_ofNat hspared))
    · exact .inl hp
  | a :: b :: ns =>
    rw [hvalue] at h
    rcases (Bool.or_eq_true _ _).mp h with hspared | hp
    · exact .inr (hcodes _ hspared)
    · have hhere := List.all_eq_true.mp hp _ hk
      rw [hcode] at hhere
      exact .inl hhere

theorem Table.find?_mem {t : Table} {c : Char} {e : Entry} (h : t.find? c = some e) :
    e ∈ t ∧ e.covers c = true := by
  unfold find? at h
  exact ⟨List.mem_of_find?_eq_some h, @List.find?_some _ (fun e => e.covers c) e t h⟩

/-! ## Normal form -/

theorem spares_of_mem_decompositions {e : Entry} (h : e ∈ decompositions) :
    0x80 ≤ e.first ∧ e.sparesCapitals isCapital = true := by
  have hall := List.all_eq_true.mp decompositions_capitals e h
  simpa using hall

theorem isSyllable_iff {n : Nat} : isSyllable n = true ↔ 0xac00 ≤ n ∧ n < 0xd7a4 := by
  rw [isSyllable, Bool.and_eq_true, decide_eq_true_eq, decide_eq_true_eq]
  exact Iff.rfl

theorem spared_of_parts {c : Char} (hc : Spared c) {ps : List Char} (h : parts? c = some ps) :
    ∀ d ∈ ps, Spared d := by
  unfold parts? at h
  split at h
  · next hsyllable =>
    rw [isSyllable_iff] at hsyllable
    rw [← Option.some.inj h]
    have hfront : ∀ d ∈ [Char.ofNat (0x1100 + (c.toNat - hangulBase) / 588),
        Char.ofNat (0x1161 + (c.toNat - hangulBase) % 588 / 28)], Spared d := by
      intro d hd
      simp only [List.mem_cons, List.not_mem_nil, or_false] at hd
      unfold hangulBase at hd
      rcases hd with rfl | rfl <;> exact spared_ofNat (isCapital_between (by omega) (by omega))
    unfold hangulParts
    simp only
    split
    · exact hfront
    · intro d hd
      rcases List.mem_append.mp hd with hd | hd
      · exact hfront d hd
      · rw [List.mem_singleton.mp hd]
        exact spared_ofNat (isCapital_between (by omega) (by omega))
  · rw [Option.map_eq_some_iff] at h
    obtain ⟨e, he, rfl⟩ := h
    obtain ⟨hmem, hcovers⟩ := Table.find?_mem he
    have hspares := (spares_of_mem_decompositions hmem).2
    rcases Entry.sparesCapitals_covers hspares hcovers with hcapital | himages
    · rw [hc] at hcapital
      cases hcapital
    · exact himages

theorem spared_decompose {depth : Nat} {c : Char} (hc : Spared c) :
    ∀ d ∈ decompose depth c, Spared d := by
  induction depth generalizing c with
  | zero => exact List.forall_mem_singleton.mpr hc
  | succ depth ih =>
    rw [decompose]
    split
    · exact List.forall_mem_singleton.mpr hc
    · next ps hps =>
      intro d hd
      obtain ⟨p, hp, hd⟩ := List.mem_flatMap.mp hd
      exact ih (spared_of_parts hc hps p hp) d hd

theorem mem_insertOrdered {c d : Char} {s : List Char} :
    d ∈ insertOrdered c s ↔ d = c ∨ d ∈ s := by
  induction s with
  | nil => exact List.mem_cons
  | cons b s ih =>
    rw [insertOrdered]
    split
    · rw [List.mem_cons, ih, List.mem_cons]
      exact or_left_comm
    · exact List.mem_cons

theorem mem_ordered {d : Char} {s : List Char} : d ∈ ordered s ↔ d ∈ s := by
  induction s with
  | nil => exact Iff.rfl
  | cons c s ih =>
    have hstep : ordered (c :: s) = insertOrdered c (ordered s) := rfl
    rw [hstep, mem_insertOrdered, ih, List.mem_cons]

/-- Composition makes no ASCII letter. -/
theorem toLower_of_composed {a b c : Char} (h : composed? a b = some c) : c.toLower = c := by
  suffices hbeyond : ∃ n, 0x80 ≤ n ∧ Char.ofNat n = c by
    obtain ⟨n, hn, rfl⟩ := hbeyond
    apply toLower_eq_self
    rcases toNat_ofNat n with h | h <;> omega
  unfold composed? hangulBase at h
  simp only at h
  split at h
  · exact ⟨_, by omega, Option.some.inj h⟩
  split at h
  · next hsyllable =>
    have hrange := isSyllable_iff.mp hsyllable.1
    exact ⟨_, by omega, Option.some.inj h⟩
  · rw [Option.bind_eq_some_iff] at h
    obtain ⟨e, he, h⟩ := h
    split at h
    · cases h
    · exact ⟨_, (spares_of_mem_decompositions (List.mem_of_find?_eq_some he)).1, Option.some.inj h⟩

theorem toLower_of_kept {starter : Option Char} {marks : List Char}
    (hstarter : ∀ c ∈ starter, c.toLower = c) (hmarks : ∀ c ∈ marks, c.toLower = c) :
    ∀ c ∈ starter.toList ++ marks.reverse, c.toLower = c := by
  intro c hc
  rcases List.mem_append.mp hc with hc | hc
  · exact hstarter c (Option.mem_toList.mp hc)
  · exact hmarks c (List.mem_reverse.mp hc)

theorem composeFrom_nil (starter : Option Char) (marks : List Char) :
    composeFrom starter marks [] = starter.toList ++ marks.reverse := rfl

theorem composeFrom_reachable (starter : Option Char) (marks : List Char) (c : Char)
    (s : List Char) :
    ∃ reachable : Bool, composeFrom starter marks (c :: s) =
      (if reachable then starter.bind (composed? · c) else none).elim
        (if combiningClass c = 0 then starter.toList ++ marks.reverse ++ composeFrom (some c) [] s
        else composeFrom starter (c :: marks) s)
        (composeFrom · marks s) := by
  rw [composeFrom.eq_def]
  cases marks with
  | nil =>
    refine ⟨true, ?_⟩
    simp only
    split <;> next h => rw [h]; rfl
  | cons m marks =>
    refine ⟨combiningClass m < combiningClass c, ?_⟩
    simp only
    split <;> next h => rw [h]; rfl

/-- The next character is taken up by the last starter, is a starter itself, or is kept. -/
theorem composeFrom_cons (starter : Option Char) (marks : List Char) (c : Char) (s : List Char) :
    (∃ a ∈ starter, ∃ whole, composed? a c = some whole ∧
      composeFrom starter marks (c :: s) = composeFrom (some whole) marks s) ∨
    composeFrom starter marks (c :: s) =
      starter.toList ++ marks.reverse ++ composeFrom (some c) [] s ∨
    composeFrom starter marks (c :: s) = composeFrom starter (c :: marks) s := by
  obtain ⟨reachable, hstep⟩ := composeFrom_reachable starter marks c s
  rw [hstep]
  cases hwhole : if reachable then starter.bind (composed? · c) else none with
  | some whole =>
    left
    split at hwhole
    · obtain ⟨a, hstarter, ha⟩ := Option.bind_eq_some_iff.mp hwhole
      exact ⟨a, hstarter, whole, ha, rfl⟩
    · cases hwhole
  | none =>
    rw [Option.elim_none]
    split
    · exact .inr (.inl rfl)
    · exact .inr (.inr rfl)

theorem toLower_of_composeFrom {starter : Option Char} {marks s : List Char}
    (hstarter : ∀ c ∈ starter, c.toLower = c) (hmarks : ∀ c ∈ marks, c.toLower = c)
    (hs : ∀ c ∈ s, c.toLower = c) : ∀ c ∈ composeFrom starter marks s, c.toLower = c := by
  have hsome : ∀ a : Char, a.toLower = a → ∀ c ∈ some a, c.toLower = c := by
    intro a ha c hc
    rwa [Option.mem_some_iff.mp hc] at ha
  induction s generalizing starter marks with
  | nil =>
    rw [composeFrom_nil]
    exact toLower_of_kept hstarter hmarks
  | cons b s ih =>
    obtain ⟨hb, hs⟩ := List.forall_mem_cons.mp hs
    rcases composeFrom_cons starter marks b s with ⟨a, _, whole, hwhole, h⟩ | h | h <;> rw [h]
    · exact ih (hsome whole (toLower_of_composed hwhole)) hmarks hs
    · intro c hc
      rcases List.mem_append.mp hc with hc | hc
      · exact toLower_of_kept hstarter hmarks c hc
      · exact ih (hsome b hb) (by simp) hs c hc
    · exact ih hstarter (List.forall_mem_cons.mpr ⟨hb, hmarks⟩) hs

theorem toLower_of_normalize {s : List Char} (h : ∀ c ∈ s, Spared c) :
    ∀ c ∈ normalize s, c.toLower = c := by
  unfold normalize
  split
  · exact fun c hc => (h c hc).toLower
  · refine toLower_of_composeFrom (by simp) (by simp) ?_
    intro c hc
    obtain ⟨d, hd, hc⟩ := List.mem_flatMap.mp (mem_ordered.mp hc)
    exact (spared_decompose (h d hd) c hc).toLower

theorem normalize_ascii {s : List Char} (h : ∀ c ∈ s, c.toNat < 0x80) : normalize s = s := by
  rw [normalize, if_pos]
  exact List.all_eq_true.mpr fun c hc => decide_eq_true (Nat.lt_trans (h c hc) (by decide))

/-! ## Capitals stand for others -/

theorem Table.covers_of_coversFrom {t : Table} {first count : Nat}
    (h : t.coversFrom first count = true) {c : Char} (hlow : first ≤ c.toNat)
    (hhigh : c.toNat < first + count) (hc : isCapital c.toNat = true) : t.has c = true := by
  have hhere := List.all_eq_true.mp h (c.toNat - first) (List.mem_range.mpr (by omega))
  rw [Nat.add_sub_cancel' hlow, hc, Bool.not_true, Bool.false_or] at hhere
  obtain ⟨e, he, hcovers⟩ := List.any_eq_true.mp hhere
  rw [has, find?, List.find?_isSome]
  exact ⟨e, (List.mem_filter.mp he).1, hcovers⟩

theorem mapping_has {c : Char} (hc : isCapital c.toNat = true) (hascii : 0x80 ≤ c.toNat) :
    mapping.has c = true := by
  have hcovers := (Bool.and_eq_true _ _ ▸ mapping_capitals).2
  simp only [Table.coversCapitals, Bool.and_eq_true] at hcovers
  obtain ⟨⟨hlatin, hadditional⟩, hsigns⟩ := hcovers
  have hcapital := hc
  rw [isCapital] at hcapital
  split at hcapital
  · simp only [Bool.and_eq_true, decide_eq_true_eq] at hcapital
    omega
  split at hcapital
  · exact Table.covers_of_coversFrom hlatin (by omega) (by omega) hc
  split at hcapital
  · cases hcapital
  split at hcapital
  · exact Table.covers_of_coversFrom hadditional (by omega) (by omega) hc
  · simp only [Bool.or_eq_true, beq_iff_eq] at hcapital
    exact Table.covers_of_coversFrom hsigns (by omega) (by omega) hc

end Unicode

namespace Domain

theorem meaning?_of_find {c : Char} (hascii : 0x80 ≤ c.toNat) {e : Unicode.Entry}
    (he : Unicode.mapping.find? c = some e) : meaning? c = some (e.images c) := by
  rw [meaning?, if_neg (by omega), he, Unicode.Entry.images]
  simp only
  rcases e.value with _ | ⟨_, _ | ⟨_, _⟩⟩
  · rfl
  · rfl
  · rfl

theorem spared_of_meaning {c : Char} {m : List Char} (h : meaning? c = some m) :
    ∀ d ∈ m, Unicode.Spared d := by
  by_cases hascii : c.toNat < 0x80
  · rw [meaning?, if_pos hascii] at h
    rw [← Option.some.inj h]
    exact List.forall_mem_singleton.mpr (Unicode.spared_toLower hascii)
  cases hfind : Unicode.mapping.find? c with
  | some e =>
    rw [meaning?_of_find (by omega) hfind] at h
    obtain ⟨hmem, hcovers⟩ := Unicode.Table.find?_mem hfind
    have hspares := List.all_eq_true.mp (Bool.and_eq_true _ _ ▸ Unicode.mapping_capitals).1 e hmem
    rw [← Option.some.inj h]
    exact (Unicode.Entry.sparesCapitals_covers hspares hcovers).resolve_left (by simp)
  | none =>
    rw [meaning?, if_neg hascii, hfind] at h
    simp only at h
    split at h
    · rw [← Option.some.inj h]
      simp
    split at h
    · rw [← Option.some.inj h]
      refine List.forall_mem_singleton.mpr (Bool.eq_false_iff.mpr ?_)
      intro hc
      have hhas := Unicode.mapping_has hc (by omega)
      rw [Unicode.Table.has, hfind] at hhas
      cases hhas
    · cases h

/-- What a name stands for has no capital ASCII letter. -/
theorem toLower_of_meaningOf {s t : List Char} (h : meaningOf? s = some t) :
    ∀ c ∈ t, c.toLower = c := by
  rw [meaningOf?, Option.map_eq_some_iff] at h
  obtain ⟨parts, hparts, rfl⟩ := h
  apply Unicode.toLower_of_normalize
  intro c hc
  obtain ⟨m, hm, hc⟩ := List.mem_flatten.mp hc
  obtain ⟨a, _, ha⟩ := exists_of_mapM hparts hm
  exact spared_of_meaning ha c hc

/-- ASCII text without capitals stands for itself. -/
theorem meaningOf?_eq_self {s : List Char} (hascii : ∀ c ∈ s, c.toNat < 0x80)
    (hlower : ∀ c ∈ s, c.toLower = c) : meaningOf? s = some s := by
  have hparts : s.mapM meaning? = some (s.map fun c => [c]) := by
    apply mapM_eq_some.mpr
    rw [List.forall₂_map_right_iff, List.forall₂_same]
    intro c hc
    rw [meaning?, if_pos (hascii c hc), hlower c hc]
  rw [meaningOf?, hparts, Option.map_some, ← List.flatMap_def, List.flatMap_singleton',
    Unicode.normalize_ascii hascii]

end Domain

end SmokeProbe
