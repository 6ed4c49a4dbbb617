import SmokeProbe.Proofs.PercentEncoding
import SmokeProbe.Url.Path

/-!
# Canonical paths

Every path that is read under a network scheme consists of segments that have no slash, nothing left
to encode, and are no dot segment in any spelling. Such segments are read as they are, so reading
the text of a path gives the path again, and so does reading it with more of them behind.
-/
namespace SmokeProbe.Url

namespace Percent
variable {set : Char → Bool}

/-- Only a character that stays itself leaves something other than a percent sign in front. -/
theorem encode_eq_cons {s t : List Char} {c : Char} (hc : c ≠ '%') (h : encode set s = c :: t) :
    ∃ s', s = c :: s' ∧ encode set s' = t := by
  cases s with
  | nil => cases h
  | cons d s =>
    rw [encode_cons] at h
    by_cases hd : set d = true
    · rw [encodeChar, if_pos hd] at h
      obtain ⟨b, bs, hbs⟩ := List.exists_cons_of_ne_nil (Text.Utf8.encodeChar_ne_nil d)
      rw [hbs, List.flatMap_cons] at h
      exact absurd (List.cons.inj h).1.symm hc
    · rw [encodeChar_eq_self (by simpa using hd)] at h
      obtain ⟨rfl, ht⟩ := List.cons.inj h
      exact ⟨s, rfl, ht⟩

theorem encode_eq_singleton {s : List Char} {c : Char} (hc : c ≠ '%') (h : encode set s = [c]) :
    s = [c] := by
  obtain ⟨s', rfl, hs'⟩ := encode_eq_cons hc h
  cases s' with
  | nil => rfl
  | cons d s' =>
    rw [encode_cons] at hs'
    exact absurd (List.append_eq_nil_iff.mp hs').1 (encodeChar_ne_nil set d)

end Percent

namespace Path

theorem plainDots_cons {c : Char} (h : c ≠ '%') (s : List Char) :
    plainDots (c :: s) = c :: plainDots s := by
  rw [plainDots]
  · intro t hc
    exact absurd hc h
  · intro t hc
    exact absurd hc h

theorem upperHexDigit_ne_percent : ∀ n < 16, Text.upperHexDigit n ≠ '%' := by decide

theorem upperHexDigit_ne_lower : ∀ n < 16, Text.upperHexDigit n ≠ 'e' := by decide

theorem upperHexDigit_inj :
    ∀ m < 16, ∀ n < 16, Text.upperHexDigit m = Text.upperHexDigit n → m = n := by
  decide

/-- A spelled-out byte is no spelled-out dot. -/
theorem plainDots_encodeByte {b : UInt8} (hb : b.toNat ≠ 0x2e) (s : List Char) :
    plainDots (Percent.encodeByte b ++ s) = Percent.encodeByte b ++ plainDots s := by
  have hlt : b.toNat < 256 := b.toNat_lt
  have hhigh : b.toNat / 16 < 16 := by omega
  have hlow : b.toNat % 16 < 16 := by omega
  have hdot : ¬ (Text.upperHexDigit (b.toNat / 16) = '2' ∧
      Text.upperHexDigit (b.toNat % 16) = 'E') := by
    intro ⟨hh, hl⟩
    have h₁ := upperHexDigit_inj _ hhigh 2 (by decide) hh
    have h₂ := upperHexDigit_inj _ hlow 14 (by decide) hl
    omega
  rw [Percent.encodeByte]
  simp only [List.cons_append, List.nil_append]
  rw [plainDots, plainDots_cons (upperHexDigit_ne_percent _ hhigh),
    plainDots_cons (upperHexDigit_ne_percent _ hlow)]
  · intro t _ h
    obtain ⟨_, h⟩ := List.cons.inj h
    exact upperHexDigit_ne_lower _ hlow (List.cons.inj h).1
  · intro t _ h
    obtain ⟨hh, h⟩ := List.cons.inj h
    exact hdot ⟨hh, (List.cons.inj h).1⟩

theorem byte_ne_dot {c : Char} (h : c ≠ '.') : ∀ b ∈ Text.Utf8.encodeChar c, b.toNat ≠ 0x2e := by
  intro b hb hdot
  have hcode : c.toNat = b.toNat := Text.Utf8.toNat_of_mem_encodeChar hb (by omega)
  exact h (Char.toNat_inj.mp (hcode.trans hdot))

theorem plainDots_encodeBytes {bs : List UInt8} (hbs : ∀ b ∈ bs, b.toNat ≠ 0x2e) (s : List Char) :
    plainDots (bs.flatMap Percent.encodeByte ++ s) =
      bs.flatMap Percent.encodeByte ++ plainDots s := by
  induction bs with
  | nil => rfl
  | cons b bs ih =>
    rw [List.flatMap_cons, List.append_assoc, plainDots_encodeByte (hbs b List.mem_cons_self),
      ih fun b hb => hbs b (List.mem_cons_of_mem _ hb), List.append_assoc]

/-- Encoding leaves dots alone, however they are spelled. -/
theorem plainDots_encode (s : List Char) :
    plainDots (Percent.encode Percent.inPath s) = Percent.encode Percent.inPath (plainDots s) := by
  fun_induction plainDots s with
  | case1 s ih =>
    have hfront : Percent.encode Percent.inPath ('%' :: '2' :: 'e' :: s) =
        '%' :: '2' :: 'e' :: Percent.encode Percent.inPath s := rfl
    rw [hfront, plainDots, ih]
    rfl
  | case2 s ih =>
    have hfront : Percent.encode Percent.inPath ('%' :: '2' :: 'E' :: s) =
        '%' :: '2' :: 'E' :: Percent.encode Percent.inPath s := rfl
    rw [hfront, plainDots, ih]
    rfl
  | case3 c s hlower hupper ih =>
    rw [Percent.encode_cons, Percent.encode_cons]
    by_cases hc : Percent.inPath c = true
    · have hdot : c ≠ '.' := by
        rintro rfl
        exact absurd hc (by decide)
      rw [Percent.encodeChar, if_pos hc, plainDots_encodeBytes (byte_ne_dot hdot), ih]
    · rw [Percent.encodeChar_eq_self (by simpa using hc), List.singleton_append, plainDots, ih]
      · rfl
      · intro t hpercent h
        obtain ⟨u, rfl, hu⟩ := Percent.encode_eq_cons (by decide) h
        obtain ⟨v, rfl, _⟩ := Percent.encode_eq_cons (by decide) hu
        exact hlower v hpercent rfl
      · intro t hpercent h
        obtain ⟨u, rfl, hu⟩ := Percent.encode_eq_cons (by decide) h
        obtain ⟨v, rfl, _⟩ := Percent.encode_eq_cons (by decide) hu
        exact hupper v hpercent rfl
  | case4 => rfl

/-- A segment in its final form. -/
structure IsFinal (s : List Char) : Prop where
  encoded : ∀ c ∈ s, Percent.inPath c = false
  noSlash : ∀ c ∈ s, isSlash .network c = false
  notHere : isHere s = false
  notUp : isUp s = false

theorem isFinal_nil : IsFinal [] :=
  ⟨List.forall_mem_nil _, List.forall_mem_nil _, rfl, rfl⟩

theorem finish_network (done : List (List Char)) (s : List Char) :
    finish .network done s = Percent.encode Percent.inPath s := by
  unfold finish
  split
  · rw [if_neg (by simp)]
  · rfl

theorem isSlash_spelling {c : Char} (h : Percent.IsSpelling c) : isSlash .network c = false := by
  rcases h with rfl | ⟨n, hn, rfl⟩
  · rfl
  · have hall : ∀ n < 16, isSlash .network (Text.upperHexDigit n) = false := by decide
    exact hall n hn

theorem isFinal_encode {s : List Char} (hslash : ∀ c ∈ s, isSlash .network c = false)
    (hhere : isHere s = false) (hup : isUp s = false) :
    IsFinal (Percent.encode Percent.inPath s) where
  encoded := Percent.encode_avoids Percent.settled_path
  noSlash := by
    intro c hc
    rcases Percent.mem_encode hc with ⟨hmem, _⟩ | hspelling
    · exact hslash c hmem
    · exact isSlash_spelling hspelling
  notHere := by
    rw [isHere, beq_eq_false_iff_ne] at hhere ⊢
    rw [plainDots_encode]
    exact fun h => hhere (Percent.encode_eq_singleton (by decide) h)
  notUp := by
    rw [isUp, beq_eq_false_iff_ne] at hup ⊢
    rw [plainDots_encode]
    intro h
    obtain ⟨t, ht, hlast⟩ := Percent.encode_eq_cons (by decide) h
    rw [Percent.encode_eq_singleton (by decide) hlast] at ht
    exact hup ht

theorem mem_up {kind : SchemeKind} {done : List (List Char)} {s : List Char}
    (h : s ∈ up kind done) : s ∈ done := by
  match done with
  | [] => exact h
  | [t] =>
    rw [up] at h
    split at h
    · exact h
    · cases h
  | t :: u :: rest => exact List.mem_cons_of_mem _ h

/-- Every step leaves final segments only. -/
theorem resolve_final {done raw : List (List Char)} (hdone : ∀ s ∈ done, IsFinal s)
    (hraw : ∀ s ∈ raw, ∀ c ∈ s, isSlash .network c = false) :
    ∀ s ∈ resolve .network done raw, IsFinal s := by
  induction raw generalizing done with
  | nil => exact hdone
  | cons t raw ih =>
    have hup : ∀ s ∈ up .network done, IsFinal s := fun s hs => hdone s (mem_up hs)
    have hempty : ∀ done : List (List Char),
        (∀ s ∈ done, IsFinal s) → ∀ s ∈ [] :: done, IsFinal s :=
      fun done h => List.forall_mem_cons.mpr ⟨isFinal_nil, h⟩
    rw [resolve]
    apply ih _ fun s hs => hraw s (List.mem_cons_of_mem _ hs)
    split
    · split
      · exact hempty _ hup
      · exact hup
    · next hnotUp =>
      split
      · split
        · exact hempty _ hdone
        · exact hdone
      · next hnotHere =>
        rw [finish_network]
        refine List.forall_mem_cons.mpr ⟨?_, hdone⟩
        exact isFinal_encode (hraw t List.mem_cons_self) (by simpa using hnotHere)
          (by simpa using hnotUp)

theorem resolve_ne_nil (kind : SchemeKind) {done raw : List (List Char)} (h : raw ≠ []) :
    resolve kind done raw ≠ [] := by
  induction raw generalizing done with
  | nil => exact absurd rfl h
  | cons s raw ih =>
    rw [resolve]
    cases raw with
    | nil =>
      rw [resolve]
      split
      · exact List.cons_ne_nil _ _
      · split <;> exact List.cons_ne_nil _ _
    | cons t raw => exact ih (List.cons_ne_nil _ _)

/-- Final segments are added as they are. -/
theorem resolve_of_final {done raw : List (List Char)} (h : ∀ s ∈ raw, IsFinal s) :
    resolve .network done raw = raw.reverse ++ done := by
  induction raw generalizing done with
  | nil => rfl
  | cons s raw ih =>
    have hs := h s List.mem_cons_self
    rw [resolve, hs.notUp, hs.notHere]
    simp only [Bool.false_eq_true, if_false]
    rw [finish_network, Percent.encode_eq_self hs.encoded,
      ih fun t ht => h t (List.mem_cons_of_mem _ ht)]
    simp

theorem rawSegments_ne_nil (kind : SchemeKind) (s : List Char) : rawSegments kind s ≠ [] := by
  cases s with
  | nil => exact List.cons_ne_nil _ _
  | cons c s => exact Text.pieces_ne_nil _ _

theorem rawSegments_avoid (kind : SchemeKind) (s : List Char) :
    ∀ a ∈ rawSegments kind s, ∀ c ∈ a, isSlash kind c = false := by
  cases s with
  | nil =>
    intro a ha
    rw [List.mem_singleton.mp ha]
    exact List.forall_mem_nil _
  | cons c s => exact Text.pieces_avoid

/-- The path is one or more final segments. -/
def IsCanonical (p : Path) : Prop :=
  ∃ list : List String, p = .segments list ∧ list ≠ [] ∧ ∀ s ∈ list, IsFinal s.toList

theorem ofText_canonical (s : List Char) : (ofText .network s).IsCanonical := by
  have hraw := rawSegments_ne_nil .network s
  have hfinal := @resolve_final [] _ nofun (rawSegments_avoid .network s)
  refine ⟨_, if_neg (by simp), ?_, ?_⟩
  · simp [below, resolve_ne_nil .network hraw]
  · intro t ht
    obtain ⟨a, ha, rfl⟩ := List.mem_map.mp ht
    rw [String.toList_ofList]
    exact hfinal a (List.mem_reverse.mp ha)

/-- Final segments are read as they are. -/
theorem ofText_led {list : List String} (hne : list ≠ []) (h : ∀ s ∈ list, IsFinal s.toList) :
    ofText .network (Text.led '/' (list.map String.toList)) = .segments list := by
  obtain ⟨s, rest, rfl⟩ := List.exists_cons_of_ne_nil hne
  have hraw : rawSegments .network (Text.led '/' ((s :: rest).map String.toList)) =
      (s :: rest).map String.toList := by
    have hpieces := Text.pieces_joined (p := isSlash .network) (d := '/') rfl
      (a := s.toList) (r := rest.map String.toList) (by
        intro b hb
        obtain ⟨t, ht, rfl⟩ := List.mem_map.mp (show b ∈ (s :: rest).map String.toList from hb)
        exact (h t ht).noSlash)
    exact hpieces
  rw [ofText, if_neg (by simp), ofTextBelow, below, hraw, resolve_of_final]
  · simp [List.map_map, Function.comp_def]
  · intro a ha
    obtain ⟨t, ht, rfl⟩ := List.mem_map.mp ha
    exact h t ht

theorem ofText_text {p : Path} (h : p.IsCanonical) : ofText .network p.text = p := by
  obtain ⟨list, rfl, hne, hfinal⟩ := h
  exact ofText_led hne hfinal

theorem mem_led {d c : Char} {parts : List (List Char)} (h : c ∈ Text.led d parts) :
    c = d ∨ ∃ a ∈ parts, c ∈ a := by
  obtain ⟨a, ha, hc⟩ := List.mem_flatMap.mp h
  exact (List.mem_cons.mp hc).imp_right fun hc => ⟨a, ha, hc⟩

/-- The text of a path begins with a slash and has nothing left to encode. -/
theorem IsCanonical.text {p : Path} (h : p.IsCanonical) :
    p.text.head? = some '/' ∧ ∀ c ∈ p.text, Percent.inPath c = false := by
  obtain ⟨list, rfl, hne, hfinal⟩ := h
  obtain ⟨s, rest, rfl⟩ := List.exists_cons_of_ne_nil hne
  refine ⟨rfl, ?_⟩
  intro c hc
  rcases mem_led hc with rfl | ⟨a, ha, hc⟩
  · rfl
  · obtain ⟨t, ht, rfl⟩ := List.mem_map.mp ha
    exact (hfinal t ht).encoded c hc

end Path

end SmokeProbe.Url
