import SmokeProbe.Http.Body
import SmokeProbe.Proofs.Results

/-!
# Chunked bodies

A chunked body is a run of chunks, each with its size in front, and a last chunk of size zero. The
reader of chunks passes a chunk as a whole: it comes back to the state in which it began, having
yielded the data. Only the last byte of the last chunk takes it to its end, so no body that breaks
off earlier is taken for a shorter one.
-/
namespace SmokeProbe.Http

/-- A chunk as it is written. Blanks and an extension may stand behind the size. -/
structure Chunk where
  digits : List UInt8
  blanks : List UInt8
  extension : Option (List UInt8)
  data : List UInt8
  isSize : Text.hexadecimal? (digits.map fun b => Char.ofNat b.toNat) = some data.length
  isBlank : ∀ b ∈ blanks, Head.isBlank b = true
  isExtension : ∀ e, extension = some e → Head.carriageReturn ∉ e ∧ Head.lineFeed ∉ e
  data_ne_nil : data ≠ []

namespace Chunk

def extensionBytes : Option (List UInt8) → List UInt8
  | none => []
  | some e => 59 :: e

def bytes (c : Chunk) : List UInt8 :=
  c.digits ++ (c.blanks ++ (extensionBytes c.extension ++
    Head.carriageReturn :: Head.lineFeed :: (c.data ++ [Head.carriageReturn, Head.lineFeed])))

/-- The chunk that ends a body: a zero and two line breaks. -/
def last : List UInt8 := Head.ascii "0\r\n\r\n"

end Chunk

namespace ChunkState

/-! ## Passing bytes -/

/-- Bytes that lead from one state to another, with what they yield. -/
inductive Passes : ChunkState → List UInt8 → ChunkState → List UInt8 → Prop
  | nil (st : ChunkState) : Passes st [] st []
  | cons {st next last : ChunkState} {b : UInt8} {s body : List UInt8} : st.next b = .ok next →
      Passes next s last body → Passes st (b :: s) last (st.yield b ++ body)

namespace Passes
variable {st mid last : ChunkState} {s t body more : List UInt8}

theorem append (h : Passes st s mid body) (k : Passes mid t last more) :
    Passes st (s ++ t) last (body ++ more) := by
  induction h with
  | nil => exact k
  | cons hnext _ ih =>
    rw [List.append_assoc]
    exact .cons hnext (ih k)

theorem exists_of_append (h : Passes st (s ++ t) last body) :
    ∃ mid front back, Passes st s mid front ∧ Passes mid t last back ∧ body = front ++ back := by
  induction s generalizing st body with
  | nil => exact ⟨st, [], body, .nil st, h, rfl⟩
  | cons b s ih =>
    cases h with
    | cons hnext hrest =>
      obtain ⟨mid, front, back, hfront, hback, rfl⟩ := ih hrest
      exact ⟨mid, _, back, .cons hnext hfront, hback, (List.append_assoc _ _ _).symm⟩

theorem unique {last' : ChunkState} {body' : List UInt8} (h : Passes st s last body)
    (h' : Passes st s last' body') : last = last' ∧ body = body' := by
  induction h generalizing body' with
  | nil =>
    cases h'
    exact ⟨rfl, rfl⟩
  | cons hnext _ ih =>
    cases h' with
    | cons hnext' hrest =>
      rw [hnext] at hnext'
      cases hnext'
      obtain ⟨rfl, rfl⟩ := ih hrest
      exact ⟨rfl, rfl⟩

/-- One byte that yields nothing. -/
theorem step {b : UInt8} (hnext : st.next b = .ok mid) (hyield : st.yield b = [])
    (h : Passes mid s last body) : Passes st (b :: s) last body := by
  have hstep := Passes.cons hnext h
  rwa [hyield, List.nil_append] at hstep

end Passes

/-- Behind the end nothing is read any more. -/
theorem passes_done (s : List UInt8) : Passes .done s .done [] := by
  induction s with
  | nil => exact .nil .done
  | cons b s ih => exact .step rfl rfl ih

theorem readFrom_cons {st : ChunkState} (h : st ≠ .done) (b : UInt8) (s : List UInt8) :
    readFrom st (b :: s) =
      st.next b >>= fun next => readFrom next s >>= fun more => .ok (st.yield b ++ more) := by
  cases st with
  | done => exact absurd rfl h
  | _ => rfl

/-- A body is read if and only if its bytes lead to the end. -/
theorem readFrom_eq_ok {st : ChunkState} {s body : List UInt8} :
    readFrom st s = .ok body ↔ Passes st s .done body := by
  induction s generalizing st body with
  | nil =>
    constructor
    · intro h
      cases st <;> cases h
      exact .nil .done
    · intro h
      cases h
      rfl
  | cons b s ih =>
    by_cases hdone : st = .done
    · subst hdone
      rw [readFrom]
      constructor
      · rintro ⟨⟩
        exact passes_done _
      · intro h
        rw [((passes_done _).unique h).2]
    · rw [readFrom_cons hdone]
      constructor
      · intro h
        obtain ⟨next, hnext, h⟩ := bind_eq_ok.mp h
        obtain ⟨more, hmore, h⟩ := bind_eq_ok.mp h
        cases h
        exact .cons hnext (ih.mp hmore)
      · intro h
        cases h with
        | cons hnext hrest =>
          rw [hnext, ok_bind, ih.mpr hrest]
          rfl

/-! ## Passing a chunk -/

theorem afterSize_of_digit {b : UInt8} {d : Nat} (h : Text.hexDigit? (Char.ofNat b.toNat) = some d)
    (n : Nat) : afterSize n b = none := by
  have hne : ∀ c ∈ [(32 : UInt8), 9, 59, Head.carriageReturn], b ≠ c := by
    rintro c hc rfl
    have hnone : ∀ c ∈ [(32 : UInt8), 9, 59, Head.carriageReturn],
        Text.hexDigit? (Char.ofNat c.toNat) = none := by decide +kernel
    rw [hnone b hc] at h
    cases h
  have hblank : Head.isBlank b = false := by
    simp [Head.isBlank, hne 32 (by decide), hne 9 (by decide)]
  rw [afterSize, hblank, if_neg Bool.false_ne_true, if_neg (hne 59 (by decide)),
    if_neg (hne _ (by decide))]

theorem eq_of_digit {fault : BodyFault} {n d : Nat} {b : UInt8} {st : ChunkState}
    (h : digit fault n b = .ok st) (hd : Text.hexDigit? (Char.ofNat b.toNat) = some d) :
    st = .size (n * 16 + d) := by
  simp only [digit, hd] at h
  split at h <;> cases h
  rfl

/-- Digits behind a number, if they can be passed, lead to the number that they make together. -/
theorem Passes.of_digits {n : Nat} {digits : List UInt8} {ds : List Nat} {st : ChunkState}
    {body : List UInt8} (h : Passes (.size n) digits st body)
    (hds : (digits.map fun b => Char.ofNat b.toNat).mapM Text.hexDigit? = some ds) :
    st = .size (ds.foldl (fun n d => n * 16 + d) n) ∧ body = [] := by
  induction digits generalizing n ds body with
  | nil =>
    cases hds
    cases h
    exact ⟨rfl, rfl⟩
  | cons b digits ih =>
    rw [List.map_cons, List.mapM_cons] at hds
    obtain ⟨d, hd, hds⟩ := Option.bind_eq_some_iff.mp hds
    obtain ⟨more, hmore, hds⟩ := Option.bind_eq_some_iff.mp hds
    cases hds
    cases h with
    | cons hnext hrest =>
      rw [next, afterSize_of_digit hd] at hnext
      rw [eq_of_digit hnext hd] at hrest
      obtain ⟨rfl, rfl⟩ := ih hrest hmore
      exact ⟨rfl, rfl⟩

/-- The digits of a size, if they can be passed, lead to that size. -/
theorem Passes.of_size {digits : List UInt8} {n : Nat} {st : ChunkState} {body : List UInt8}
    (h : Passes .start digits st body)
    (hn : Text.hexadecimal? (digits.map fun b => Char.ofNat b.toNat) = some n) :
    st = .size n ∧ body = [] := by
  unfold Text.hexadecimal? Text.number? at hn
  cases digits with
  | nil => cases hn
  | cons b digits =>
    rw [if_neg (by simp)] at hn
    obtain ⟨ds, hds, rfl⟩ := Option.map_eq_some_iff.mp hn
    rw [List.map_cons, List.mapM_cons] at hds
    obtain ⟨d, hd, hds⟩ := Option.bind_eq_some_iff.mp hds
    obtain ⟨more, hmore, hds⟩ := Option.bind_eq_some_iff.mp hds
    cases hds
    cases h with
    | cons hnext hrest =>
      rw [eq_of_digit hnext hd] at hrest
      exact hrest.of_digits hmore

/-- Blanks and an extension behind a size lead to the end of its line. -/
theorem passes_blanks {blanks rest : List UInt8} {n : Nat} {last : ChunkState}
    (h : ∀ b ∈ blanks, Head.isBlank b = true) (hrest : ∀ st, st = .size n ∨ st = .sizeBlank n →
      Passes st rest last []) :
    ∀ st, st = .size n ∨ st = .sizeBlank n → Passes st (blanks ++ rest) last [] := by
  induction blanks with
  | nil => exact hrest
  | cons b blanks ih =>
    obtain ⟨hb, hmore⟩ := List.forall_mem_cons.mp h
    have hafter : afterSize n b = some (.sizeBlank n) := by rw [afterSize, if_pos hb]
    have hlater := ih hmore (.sizeBlank n) (.inr rfl)
    rintro st (rfl | rfl)
    · exact .step (by rw [next, hafter]) rfl hlater
    · exact .step (by rw [next, hafter]; rfl) rfl hlater

theorem passes_extension {e : List UInt8} (n : Nat)
    (h : Head.carriageReturn ∉ e ∧ Head.lineFeed ∉ e) :
    Passes (.extension n) (e ++ [Head.carriageReturn]) (.sizeEnd n) [] := by
  induction e with
  | nil => exact .step rfl rfl (.nil _)
  | cons b e ih =>
    simp only [List.mem_cons, not_or] at h
    obtain ⟨⟨hreturn, hreturns⟩, hfeed, hfeeds⟩ := h
    have hnext : next (.extension n) b = .ok (.extension n) := by
      rw [next, if_neg (Ne.symm hreturn), if_neg (Ne.symm hfeed)]
    exact .step hnext rfl (ih ⟨hreturns, hfeeds⟩)

theorem passes_sizeLine (c : Chunk) :
    Passes (.size c.data.length)
      (c.blanks ++ (Chunk.extensionBytes c.extension ++ [Head.carriageReturn]))
      (.sizeEnd c.data.length) [] := by
  apply passes_blanks c.isBlank _ _ (.inl rfl)
  intro st hst
  cases he : c.extension with
  | none =>
    rcases hst with rfl | rfl
    · exact .step rfl rfl (.nil _)
    · exact .step rfl rfl (.nil _)
  | some e =>
    have hextension := passes_extension c.data.length (c.isExtension e he)
    rcases hst with rfl | rfl
    · exact .step rfl rfl hextension
    · exact .step rfl rfl hextension

/-- As many bytes as are left of a chunk are its data. -/
theorem passes_data {data : List UInt8} (h : data ≠ []) :
    Passes (.data data.length) data .dataReturn data := by
  induction data with
  | nil => exact absurd rfl h
  | cons b data ih =>
    cases data with
    | nil => exact .cons rfl (.nil _)
    | cons c data => exact .cons (by simp [next]) (ih (List.cons_ne_nil _ _))

/-- Behind its size, a chunk leads back to where it began and yields its data. -/
theorem passes_behindSize (c : Chunk) :
    Passes (.size c.data.length)
      (c.blanks ++ (Chunk.extensionBytes c.extension ++
        Head.carriageReturn :: Head.lineFeed :: (c.data ++ [Head.carriageReturn, Head.lineFeed])))
      .start c.data := by
  have hlength : c.data.length ≠ 0 := by simpa using c.data_ne_nil
  have hfeed : next (.sizeEnd c.data.length) Head.lineFeed = .ok (.data c.data.length) := by
    rw [next, if_pos rfl, if_neg hlength]
  have hend : Passes .dataReturn [Head.carriageReturn, Head.lineFeed] .start [] :=
    .step rfl rfl (.step rfl rfl (.nil _))
  have hwhole := (passes_sizeLine c).append (.step hfeed rfl ((passes_data c.data_ne_nil).append hend))
  rwa [List.append_assoc, List.append_assoc, List.nil_append, List.append_nil] at hwhole

/-- A chunk, if it can be passed, leads back to where it began and yields its data. -/
theorem Passes.of_chunk {c : Chunk} {st : ChunkState} {body : List UInt8}
    (h : Passes .start c.bytes st body) : st = .start ∧ body = c.data := by
  obtain ⟨mid, front, back, hsize, hrest, rfl⟩ := h.exists_of_append
  obtain ⟨rfl, rfl⟩ := hsize.of_size c.isSize
  exact hrest.unique (passes_behindSize c)

/-- Chunks, if they can be passed, lead back to where they began and yield all their data. -/
theorem Passes.of_chunks {cs : List Chunk} {st : ChunkState} {body : List UInt8}
    (h : Passes .start (cs.flatMap Chunk.bytes) st body) :
    st = .start ∧ body = cs.flatMap Chunk.data := by
  induction cs generalizing body with
  | nil =>
    cases h
    exact ⟨rfl, rfl⟩
  | cons c cs ih =>
    obtain ⟨mid, front, back, hchunk, hrest, rfl⟩ := h.exists_of_append
    obtain ⟨rfl, rfl⟩ := hchunk.of_chunk
    obtain ⟨rfl, rfl⟩ := ih hrest
    exact ⟨rfl, rfl⟩

/-! ## Broken off -/

/-- The last chunk without its last byte. -/
theorem Chunk.last_eq : Chunk.last = [48, 13, 10, 13] ++ [10] := by decide

theorem passes_unended : Passes .start [48, 13, 10, 13] .lastLineFeed [] :=
  .step rfl rfl (.step rfl rfl (.step rfl rfl (.step rfl rfl (.nil _))))

/-- No chunked body is read from fewer bytes than it has. -/
theorem readFrom_of_broken {cs : List Chunk} {s t : List UInt8} (ht : t ≠ [])
    (h : s ++ t = cs.flatMap Chunk.bytes ++ Chunk.last) (body : List UInt8) :
    readFrom .start s ≠ .ok body := by
  intro hread
  -- Read on up to the byte before the last one: the reader would stay at the end that it reached.
  have hsplit : s ++ t.dropLast = cs.flatMap Chunk.bytes ++ [48, 13, 10, 13] := by
    rw [← List.dropLast_concat_getLast ht, Chunk.last_eq, ← List.append_assoc,
      ← List.append_assoc] at h
    exact (List.append_inj' h rfl).1
  have hdone := (readFrom_eq_ok.mp hread).append (passes_done t.dropLast)
  rw [hsplit] at hdone
  obtain ⟨mid, front, back, hchunks, hlast, -⟩ := hdone.exists_of_append
  obtain ⟨rfl, -⟩ := hchunks.of_chunks
  cases (hlast.unique passes_unended).1

end ChunkState

end SmokeProbe.Http
