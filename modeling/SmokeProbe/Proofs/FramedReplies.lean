import SmokeProbe.Proofs.ChunkGrammar
import SmokeProbe.Proofs.DecimalText
import SmokeProbe.Proofs.InterimHeads
import SmokeProbe.Proofs.TextPieces

/-!
# Framed replies

A reply whose head says where its body ends, and whose body ends there: after as many bytes as the
head names, or with the last of its chunks. The headers that say so are read as they are meant, and
the body is not read from fewer bytes than it has.
-/
namespace SmokeProbe.Http

/-- A value that writes a number in decimal digits. -/
def IsNumeral (v : List UInt8) (n : Nat) : Prop :=
  Text.decimal? (v.map fun b => Char.ofNat b.toNat) = some n

/-- A value that names the chunked encoding, in any case. -/
def IsChunkedName (v : List UInt8) : Prop := v.map Head.toLower = Head.ascii "chunked"

namespace Framing

theorem toNat_character (b : UInt8) : (Char.ofNat b.toNat).toNat = b.toNat := by
  have hb : b.toNat < 256 := b.toNat_lt
  exact congrArg Char.toNat (dif_pos (Or.inl (by omega)))

theorem visible?_of_visible {v : List UInt8} (h : ∀ b ∈ v, 32 ≤ b.toNat ∧ b.toNat < 127) :
    visible? v = some (v.map fun b => Char.ofNat b.toNat) := by
  rw [visible?, if_pos]
  rw [List.all_eq_true]
  intro b hb
  simp [h b hb]

/-- What a number and a name in a value avoid. -/
theorem separate_of_isDigit {c : Char} (h : Text.isDigit c = true) :
    (c == ',') = false ∧ Text.isBlank c = false ∧ 32 ≤ c.toNat ∧ c.toNat < 127 := by
  have hmem := Text.mem_of_isDigit h
  simp only [List.mem_cons, List.not_mem_nil, or_false] at hmem
  rcases hmem with rfl | rfl | rfl | rfl | rfl | rfl | rfl | rfl | rfl | rfl <;> decide

theorem lengthsOf?_of_isNumeral {v : List UInt8} {n : Nat} (h : IsNumeral v n) :
    lengthsOf? v = if n < UInt64.size then some [n] else none := by
  have hdigits := Text.isDigit_of_decimal? h
  have hvisible := visible?_of_visible (v := v) fun b hb => by
    have hseparate := separate_of_isDigit (hdigits _ (List.mem_map_of_mem hb))
    rw [toNat_character] at hseparate
    exact hseparate.2.2
  have hpieces := Text.pieces_eq_self fun c hc => (separate_of_isDigit (hdigits c hc)).1
  have hstrip := Text.stripBoth_eq_self fun c hc => (separate_of_isDigit (hdigits c hc)).2.1
  rw [lengthsOf?, hvisible, Option.bind_some, hpieces, List.mapM_cons, hstrip, h, Option.bind_some]
  split <;> rfl

theorem lengthOf?_of_isNumeral {vs : List (List UInt8)} {n : Nat} (hne : vs ≠ [])
    (h : ∀ v ∈ vs, IsNumeral v n) :
    lengthOf? vs = if n < UInt64.size then some n else none := by
  cases vs with
  | nil => exact absurd rfl hne
  | cons v vs =>
    obtain ⟨hv, hvs⟩ := List.forall_mem_cons.mp h
    rw [lengthOf?, List.mapM_cons, lengthsOf?_of_isNumeral hv]
    by_cases hn : n < UInt64.size
    · have hmore : vs.mapM lengthsOf? = some (vs.map fun _ => [n]) := by
        rw [mapM_eq_some, List.forall₂_map_right_iff, List.forall₂_same]
        intro w hw
        rw [lengthsOf?_of_isNumeral (hvs w hw), if_pos hn]
      rw [if_pos hn, hmore, if_pos hn]
      simp
    · rw [if_neg hn, if_neg hn]
      rfl

/-- A byte of the name is a letter. -/
theorem letter_of_chunked {b : UInt8} (h : Head.toLower b ∈ Head.ascii "chunked") :
    (32 ≤ b.toNat ∧ b.toNat < 127) ∧ (Char.ofNat b.toNat == ',') = false ∧
      Text.isBlank (Char.ofNat b.toNat) = false ∧
      (Char.ofNat b.toNat).toLower = Char.ofNat (Head.toLower b).toNat := by
  have hname : Head.ascii "chunked" = [99, 104, 117, 110, 107, 101, 100] := by decide
  have hall : ∀ n < 256, Head.toLower (UInt8.ofNat n) ∈ [99, 104, 117, 110, 107, 101, 100] →
      (32 ≤ n ∧ n < 127) ∧ (Char.ofNat n == ',') = false ∧ Text.isBlank (Char.ofNat n) = false ∧
        (Char.ofNat n).toLower = Char.ofNat (Head.toLower (UInt8.ofNat n)).toNat := by
    decide +kernel
  have hb := hall b.toNat b.toNat_lt
  rw [UInt8.ofNat_toNat, ← hname] at hb
  exact hb h

theorem endsChunked_of_name {vs : List (List UInt8)} {v : List UInt8} (hlast : vs.getLast? = some v)
    (h : IsChunkedName v) : endsChunked vs = true := by
  have hletter : ∀ b ∈ v, _ := fun b hb => letter_of_chunked (b := b) (by
    rw [← h]
    exact List.mem_map_of_mem hb)
  have hchar : ∀ c ∈ v.map (fun b => Char.ofNat b.toNat),
      (c == ',') = false ∧ Text.isBlank c = false := by
    intro c hc
    obtain ⟨b, hb, rfl⟩ := List.mem_map.mp hc
    exact ⟨(hletter b hb).2.1, (hletter b hb).2.2.1⟩
  have hlower : (v.map fun b => Char.ofNat b.toNat).map Char.toLower = "chunked".toList := by
    rw [List.map_map, show "chunked".toList =
      (Head.ascii "chunked").map fun b => Char.ofNat b.toNat by decide, ← h, List.map_map]
    exact List.map_congr_left fun b hb => (hletter b hb).2.2.2
  rw [endsChunked, hlast, Option.bind_some, visible?_of_visible fun b hb => (hletter b hb).1]
  simp only
  rw [Text.cutLast?_eq_none fun c hc => (hchar c hc).1, Option.elim_none,
    Text.stripBoth_eq_self fun c hc => (hchar c hc).2, hlower]
  exact beq_self_eq_true _

/-- How the head says where the body ends, and a body that ends there. -/
inductive Framed (h : Head) : List UInt8 → Prop
  | length (body : List UInt8) : Head.valuesOf h.headers "transfer-encoding" = [] →
      Head.valuesOf h.headers "content-length" ≠ [] →
      (∀ v ∈ Head.valuesOf h.headers "content-length", IsNumeral v body.length) → Framed h body
  | chunks (cs : List Chunk) (v : List UInt8) :
      (Head.valuesOf h.headers "transfer-encoding").getLast? = some v → IsChunkedName v →
      Framed h (cs.flatMap Chunk.bytes ++ Chunk.last)

theorem ofHead_length {h : Head} {n : Nat} (hstatus : isBodiless h.status = false)
    (hencoding : Head.valuesOf h.headers "transfer-encoding" = [])
    (hlength : Head.valuesOf h.headers "content-length" ≠ [])
    (hn : ∀ v ∈ Head.valuesOf h.headers "content-length", IsNumeral v n) :
    ofHead h = if n ≤ maxLength then .ok (.length n)
      else .error (if n < UInt64.size then .tooLarge else .badLength) := by
  have hmax : maxLength < UInt64.size := by decide
  unfold ofHead
  simp only
  rw [hstatus, if_neg Bool.false_ne_true, hencoding, if_neg (by simp), if_neg (by simpa using hlength),
    lengthOf?_of_isNumeral hlength hn]
  by_cases hsmall : n < UInt64.size
  · rw [if_pos hsmall, if_pos hsmall]
  · rw [if_neg hsmall, if_neg hsmall, if_neg (by omega)]

theorem ofHead_chunks {h : Head} {v : List UInt8} (hstatus : isBodiless h.status = false)
    (hlast : (Head.valuesOf h.headers "transfer-encoding").getLast? = some v)
    (hv : IsChunkedName v) :
    ofHead h = if h.modern then .ok .chunked else .error .unexpectedEncoding := by
  have hne : Head.valuesOf h.headers "transfer-encoding" ≠ [] := by
    intro hnil
    rw [hnil] at hlast
    cases hlast
  unfold ofHead
  simp only
  rw [hstatus, if_neg Bool.false_ne_true, if_pos (by simpa using hne),
    endsChunked_of_name hlast hv]
  cases h.modern <;> rfl

/-- The body of a framed reply is not read from fewer bytes than it has. -/
theorem read_of_broken {h : Head} {s t : List UInt8} (hstatus : isBodiless h.status = false)
    (hframed : Framed h (s ++ t)) (ht : t ≠ []) {framing : Framing} (hf : ofHead h = .ok framing)
    (body : List UInt8) : framing.read s ≠ .ok body := by
  intro hread
  generalize hwhole : s ++ t = whole at hframed
  cases hframed with
  | length _ hencoding hlength hn =>
    have hshort : ¬ whole.length ≤ s.length := by
      rw [← hwhole, List.length_append]
      have hpos := List.length_pos_iff.mpr ht
      omega
    rw [ofHead_length hstatus hencoding hlength hn] at hf
    split at hf
    · cases hf
      rw [read, if_neg hshort] at hread
      cases hread
    · cases hf
  | chunks cs v hlast hv =>
    rw [ofHead_chunks hstatus hlast hv] at hf
    split at hf
    · cases hf
      obtain ⟨body', hfrom, -⟩ := bind_eq_ok.mp hread
      exact ChunkState.readFrom_of_broken ht hwhole body' hfrom
    · cases hf

end Framing

/-- The text of a reply that is no redirect: a head behind any number of interim ones, and a body
that ends where the head says. -/
structure ReplyText where
  interim : List WrittenHead
  head : WrittenHead
  body : List UInt8
  isInterim : ∀ w ∈ interim, Head.isInterim w.status = true
  framed : Framing.Framed head.head body
  status_range : 200 ≤ head.status ∧ head.status < 600
  hasBody : head.status ≠ 204 ∧ head.status ≠ 304
  leadsNowhere : head.status ∉ [301, 302, 303, 307, 308] ∨
    Head.valuesOf head.head.headers "location" = []

namespace ReplyText

def bytes (r : ReplyText) : List UInt8 :=
  r.interim.flatMap WrittenHead.bytes ++ (r.head.bytes ++ r.body)

theorem isBodiless (r : ReplyText) : Framing.isBodiless r.head.head.status = false :=
  Framing.isBodiless_of_le r.status_range.1 r.hasBody

/-- If the head of a reply that breaks off is read, it is that of the whole reply, and what is left
is the front of its body. -/
theorem final_broken (r : ReplyText) {s t : List UInt8} (h : s ++ t = r.bytes) {head : Head}
    {rest : List UInt8} (hfinal : Head.final s = .ok (head, rest)) :
    head = r.head.head ∧ rest ++ t = r.body :=
  Head.final_broken r.isInterim (Head.isInterim_of_le r.status_range.1) h hfinal

end ReplyText

end SmokeProbe.Http
