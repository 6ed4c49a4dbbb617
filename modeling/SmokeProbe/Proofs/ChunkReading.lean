import SmokeProbe.Proofs.ChunkGrammar
import SmokeProbe.Proofs.HostAddresses

/-!
# Whole chunked bodies

A chunk whose size can be counted is passed, so a run of chunks with the last chunk behind it is
read as all their data. Nothing is dropped behind it but the line break that ends the body.
-/
namespace SmokeProbe.Http

/-- The bytes of an ASCII text are its characters. -/
theorem Head.map_ascii {s : List Char} (h : ∀ c ∈ s, c.toNat < 0x80) :
    (ascii (String.ofList s)).map (fun b => Char.ofNat b.toNat) = s := by
  have hbyte : ∀ c ∈ s, Char.ofNat (UInt8.ofNat c.toNat).toNat = c := by
    intro c hc
    have hlow := h c hc
    rw [UInt8.toNat_ofNat_of_lt' (by rw [UInt8.size]; omega), Char.ofNat_toNat]
  rw [ascii, String.toList_ofList, List.map_map]
  exact (List.map_congr_left hbyte).trans s.map_id'

theorem Chunk.isBlank_nil : ∀ b ∈ ([] : List UInt8), Head.isBlank b = true := nofun

theorem Chunk.isExtension_none : ∀ e : List UInt8, none = some e →
    Head.carriageReturn ∉ e ∧ Head.lineFeed ∉ e := nofun

/-- A chunk of given data, with nothing in front of them but their size. -/
def Chunk.ofData (data : List UInt8) (h : data ≠ []) : Chunk where
  digits := Head.ascii (String.ofList (Text.hexadecimal data.length))
  blanks := []
  extension := none
  data := data
  isSize := by
    rw [Head.map_ascii fun c hc => Nat.lt_trans
      (Text.toNat_lt_of_isHexDigit (Text.isHexDigit_of_mem_hexadecimal hc)) (by decide)]
    exact Text.hexadecimal?_hexadecimal _
  isBlank := isBlank_nil
  isExtension := isExtension_none
  data_ne_nil := h

/-- The chunks of a body that is cut into pieces. An empty piece would end the body, so it makes no
chunk. -/
def Chunk.ofPieces : List (List UInt8) → List Chunk
  | [] => []
  | piece :: pieces =>
    if h : piece = [] then ofPieces pieces else ofData piece h :: ofPieces pieces

namespace Chunk

theorem flatMap_ofPieces (pieces : List (List UInt8)) :
    (ofPieces pieces).flatMap data = pieces.flatten := by
  induction pieces with
  | nil => rfl
  | cons piece pieces ih =>
    rw [ofPieces, List.flatten_cons, ← ih]
    split
    · next hempty => rw [hempty, List.nil_append]
    · rfl

theorem of_mem_ofPieces {c : Chunk} {pieces : List (List UInt8)} (h : c ∈ ofPieces pieces) :
    c.extension = none ∧ c.data ∈ pieces := by
  induction pieces with
  | nil => cases h
  | cons piece pieces ih =>
    rw [ofPieces] at h
    split at h
    · exact ⟨(ih h).1, List.mem_cons_of_mem _ (ih h).2⟩
    · rcases List.mem_cons.mp h with rfl | h
      · exact ⟨rfl, List.mem_cons_self⟩
      · exact ⟨(ih h).1, List.mem_cons_of_mem _ (ih h).2⟩

end Chunk

namespace ChunkState

/-! ## Sizes -/

theorem le_foldl_digits (ds : List Nat) (n : Nat) :
    n ≤ ds.foldl (fun n d => n * 16 + d) n := by
  induction ds generalizing n with
  | nil => exact Nat.le_refl n
  | cons d ds ih => exact Nat.le_trans (by omega) (ih (n * 16 + d))

theorem digit_eq_ok {b : UInt8} {d n : Nat} (hd : Text.hexDigit? (Char.ofNat b.toNat) = some d)
    (hle : n * 16 + d ≤ maxSize) (fault : BodyFault) :
    digit fault n b = .ok (.size (n * 16 + d)) := by
  simp only [digit, hd, if_pos hle]

theorem passes_digits {n : Nat} {digits : List UInt8} {ds : List Nat}
    (hds : (digits.map fun b => Char.ofNat b.toNat).mapM Text.hexDigit? = some ds)
    (hle : ds.foldl (fun n d => n * 16 + d) n ≤ maxSize) :
    Passes (.size n) digits (.size (ds.foldl (fun n d => n * 16 + d) n)) [] := by
  induction digits generalizing n ds with
  | nil =>
    cases hds
    exact .nil _
  | cons b digits ih =>
    rw [List.map_cons, List.mapM_cons] at hds
    obtain ⟨d, hd, hds⟩ := Option.bind_eq_some_iff.mp hds
    obtain ⟨more, hmore, hds⟩ := Option.bind_eq_some_iff.mp hds
    cases hds
    have hstep := digit_eq_ok hd (Nat.le_trans (le_foldl_digits more _) hle) .badSize
    have hnext : next (.size n) b = .ok (.size (n * 16 + d)) := by
      rw [next, afterSize_of_digit hd, hstep]
    exact .step hnext rfl (ih hmore hle)

theorem passes_size {digits : List UInt8} {n : Nat}
    (hn : Text.hexadecimal? (digits.map fun b => Char.ofNat b.toNat) = some n)
    (hle : n ≤ maxSize) : Passes .start digits (.size n) [] := by
  unfold Text.hexadecimal? Text.number? at hn
  cases digits with
  | nil => cases hn
  | cons b digits =>
    rw [if_neg (by simp)] at hn
    obtain ⟨ds, hds, rfl⟩ := Option.map_eq_some_iff.mp hn
    rw [List.map_cons, List.mapM_cons] at hds
    obtain ⟨d, hd, hds⟩ := Option.bind_eq_some_iff.mp hds
    obtain ⟨more, hmore, hds⟩ := Option.bind_eq_some_iff.mp hds
    cases hds
    have hstep := digit_eq_ok hd (Nat.le_trans (le_foldl_digits more _) hle) .noSizeDigit
    exact .step hstep rfl (passes_digits hmore hle)

/-! ## Bodies -/

theorem passes_chunk {c : Chunk} (h : c.data.length ≤ maxSize) :
    Passes .start c.bytes .start c.data :=
  (passes_size c.isSize h).append (passes_behindSize c)

theorem passes_chunks {cs : List Chunk} (h : ∀ c ∈ cs, c.data.length ≤ maxSize) :
    Passes .start (cs.flatMap Chunk.bytes) .start (cs.flatMap Chunk.data) := by
  induction cs with
  | nil => exact .nil _
  | cons c cs ih =>
    obtain ⟨hc, hcs⟩ := List.forall_mem_cons.mp h
    exact (passes_chunk hc).append (ih hcs)

theorem passes_last : Passes .start Chunk.last .done [] := by
  rw [Chunk.last_eq]
  exact passes_unended.append (.step rfl rfl (.nil _))

/-! ## Behind the last chunk -/

/-- The last chunk has been read. -/
def IsBehind (st : ChunkState) : Prop := st.isBehindChunks = true ∨ st = .done

theorem IsBehind.next {st st' : ChunkState} {b : UInt8} (h : st.IsBehind)
    (hnext : st.next b = .ok st') : st'.IsBehind := by
  unfold IsBehind at h ⊢
  cases st with
  | trailer | lastReturn =>
    cases hnext
    split <;> simp [isBehindChunks]
  | trailerLineFeed | lastLineFeed =>
    rw [ChunkState.next] at hnext
    split at hnext
    · cases hnext
      simp [isBehindChunks]
    · cases hnext
  | done =>
    cases hnext
    exact .inr rfl
  | _ => simp [isBehindChunks] at h

theorem IsBehind.passes {st last : ChunkState} {s body : List UInt8} (h : st.IsBehind)
    (hpasses : Passes st s last body) : last.IsBehind := by
  induction hpasses with
  | nil => exact h
  | cons hnext _ ih => exact ih (h.next hnext)

/-- Bytes in front of the last chunk are no part of the trailer. -/
theorem trailerFrom_append {st mid : ChunkState} {s body : List UInt8}
    (hpasses : Passes st s mid body) (hmid : ¬ mid.IsBehind) (t : List UInt8) :
    trailerFrom st (s ++ t) = trailerFrom mid t := by
  induction hpasses with
  | nil => rfl
  | @cons st next mid b s body hnext hrest ih =>
    have hst : ¬ st.IsBehind := fun h => hmid ((h.next hnext).passes hrest)
    rw [IsBehind, not_or, Bool.not_eq_true] at hst
    rw [List.cons_append, trailerFrom, hnext]
    · simpa [hst.1] using ih hmid
    · exact hst.2

/-- A run of chunks with the last chunk behind it is read as their data. -/
theorem read_chunks {cs : List Chunk} (h : ∀ c ∈ cs, c.data.length ≤ maxSize) :
    read (cs.flatMap Chunk.bytes ++ Chunk.last) = .ok (cs.flatMap Chunk.data) := by
  have hbody := (passes_chunks h).append passes_last
  rw [List.append_nil] at hbody
  have htrailer : trailerFrom .start Chunk.last = [Head.carriageReturn, Head.lineFeed] := by
    decide +kernel
  rw [read, readFrom_eq_ok.mpr hbody, ok_bind,
    trailerFrom_append (passes_chunks h) (by simp [IsBehind, isBehindChunks]), htrailer]
  rfl

end ChunkState

end SmokeProbe.Http
