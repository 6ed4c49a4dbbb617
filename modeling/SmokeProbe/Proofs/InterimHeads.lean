import SmokeProbe.Http.Reply
import SmokeProbe.Proofs.HeadGrammar

/-!
# Heads behind interim ones

However many interim heads a peer writes in front of a reply, nothing of them is seen. If the bytes
break off behind them, what is left is still the front of what stands behind the final head.
-/
namespace SmokeProbe.Http

theorem Head.isInterim_of_le {status : Nat} (h : 200 ≤ status) : isInterim status = false := by
  have hlarge : ¬ status < 200 := by omega
  simp [isInterim, hlarge]

theorem Framing.isBodiless_of_le {status : Nat} (h : 200 ≤ status)
    (hbody : status ≠ 204 ∧ status ≠ 304) : isBodiless status = false := by
  have hswitch : status ≠ 101 := by omega
  simp [isBodiless, hswitch, hbody]

/-- A head as it is written in front of the final one. -/
structure WrittenHead.IsInterim (w : WrittenHead) : Prop where
  status : Head.isInterim w.status = true
  fits : w.headers.length ≤ Head.maxHeaders

namespace Head
variable {w : WrittenHead}

theorem final_written (hfinal : isInterim w.status = false)
    (hfits : w.headers.length ≤ maxHeaders) (s : List UInt8) :
    final (w.bytes ++ s) = .ok (w.head, s) := by
  rw [final_eq, parse_written, if_pos hfits, ok_bind, if_neg]
  simpa [WrittenHead.head] using hfinal

theorem final_interim (hw : w.IsInterim) (s : List UInt8) : final (w.bytes ++ s) = final s := by
  rw [final_eq, parse_written, if_pos hw.fits, ok_bind, if_pos]
  exact hw.status

/-- If the head of bytes that break off is read, it is the one that was written, and what is left is
the front of what stands behind it. -/
theorem parse_broken {s t more : List UInt8} (h : s ++ t = w.bytes ++ more) {head : Head}
    {rest : List UInt8} (hparse : parse s = .ok (head, rest)) : head = w.head ∧ rest ++ t = more := by
  have hwhole := parse_append t hparse
  rw [h, parse_written] at hwhole
  split at hwhole
  · rw [Except.ok.injEq, Prod.mk.injEq] at hwhole
    exact ⟨hwhole.1.symm, hwhole.2.symm⟩
  · cases hwhole

/-- Reading then goes on behind the head if it is an interim one. -/
theorem exists_of_final {s t more : List UInt8} (h : s ++ t = w.bytes ++ more)
    {r : Head × List UInt8} (hfinal : final s = .ok r) :
    ∃ rest, rest ++ t = more ∧
      (if isInterim w.status then final rest else .ok (w.head, rest)) = .ok r := by
  rw [final_eq] at hfinal
  obtain ⟨⟨head, rest⟩, hparse, hfinal⟩ := bind_eq_ok.mp hfinal
  obtain ⟨rfl, hrest⟩ := parse_broken h hparse
  exact ⟨rest, hrest, hfinal⟩

theorem final_broken {ws : List WrittenHead} (hws : ∀ w ∈ ws, isInterim w.status = true)
    (hw : isInterim w.status = false) {s t more : List UInt8}
    (h : s ++ t = ws.flatMap WrittenHead.bytes ++ (w.bytes ++ more)) {head : Head}
    {rest : List UInt8} (hfinal : final s = .ok (head, rest)) : head = w.head ∧ rest ++ t = more := by
  induction ws generalizing s with
  | nil =>
    obtain ⟨rest', hrest, hread⟩ := exists_of_final h hfinal
    rw [hw, if_neg Bool.false_ne_true] at hread
    cases hread
    exact ⟨rfl, hrest⟩
  | cons v ws ih =>
    obtain ⟨hv, hws⟩ := List.forall_mem_cons.mp hws
    rw [List.flatMap_cons, List.append_assoc] at h
    obtain ⟨rest', hrest, hread⟩ := exists_of_final h hfinal
    -- The interim head has been read whole, so the bytes break off behind it.
    rw [if_pos hv] at hread
    exact ih hws hrest hread

end Head

/-- An interim head is passed over. -/
theorem Reply.response_interim {w : WrittenHead} (hw : w.IsInterim) (s : List UInt8) :
    (Reply.raw (w.bytes ++ s)).response = (Reply.raw s).response := by
  rw [response, response, ofBytes, ofBytes, Head.final_interim hw]

end SmokeProbe.Http
