/-!
# Cutting at delimiters

Every format of this library is cut at delimiters first and read piece by piece afterwards. The
functions here only cut: put together again with the delimiters, the parts are the whole.
-/
namespace SmokeProbe.Text

variable {A : Type}

/-- What stands before the first delimiter, and what follows it if there is one. -/
def cut (p : A → Bool) : List A → List A × Option (List A)
  | [] => ([], none)
  | x :: s => if p x then ([], some s) else (x :: (cut p s).1, (cut p s).2)

/-- Without a delimiter nothing is cut. -/
theorem cut_eq_self {p : A → Bool} {s : List A} (h : ∀ x ∈ s, p x = false) :
    cut p s = (s, none) := by
  induction s with
  | nil => rfl
  | cons x s ih =>
    have hx : p x = false := h x (by simp)
    have hs : cut p s = (s, none) := ih fun y hy => h y (List.mem_cons_of_mem x hy)
    simp [cut, hx, hs]

/-- The first delimiter is where a text is cut. -/
theorem cut_append {p : A → Bool} {s : List A} {d : A} (rest : List A)
    (h : ∀ x ∈ s, p x = false) (hd : p d = true) :
    cut p (s ++ d :: rest) = (s, some rest) := by
  induction s with
  | nil => simp [cut, hd]
  | cons x s ih =>
    have hx : p x = false := h x (by simp)
    have hs := ih fun y hy => h y (List.mem_cons_of_mem x hy)
    simp [cut, hx, hs]

/-- A cut text is put together again around the delimiter it was cut at. -/
theorem cut_eq_some {p : A → Bool} {s front rest : List A} (h : cut p s = (front, some rest)) :
    ∃ d, p d = true ∧ s = front ++ d :: rest := by
  induction s generalizing front with
  | nil => cases h
  | cons x s ih =>
    rw [cut] at h
    split at h
    · next hx =>
      cases h
      exact ⟨x, hx, rfl⟩
    · obtain ⟨rfl, hsome⟩ := Prod.mk.inj h
      obtain ⟨d, hd, hs⟩ := ih (Prod.ext rfl hsome)
      exact ⟨d, hd, by rw [List.cons_append, ← hs]⟩

/-- What stands before and after the last delimiter. -/
def cutLast? (p : A → Bool) (s : List A) : Option (List A × List A) :=
  (cut p s.reverse).2.map fun front => (front.reverse, (cut p s.reverse).1.reverse)

/-- The last delimiter is where a text is cut. -/
theorem cutLast?_append {p : A → Bool} {s : List A} {d : A} (front : List A)
    (h : ∀ x ∈ s, p x = false) (hd : p d = true) :
    cutLast? p (front ++ d :: s) = some (front, s) := by
  have hcut := cut_append (p := p) (s := s.reverse) (d := d) front.reverse
    (fun x hx => h x (List.mem_reverse.mp hx)) hd
  simp [cutLast?, hcut]

/-- Without a delimiter there is nowhere to cut. -/
theorem cutLast?_eq_none {p : A → Bool} {s : List A} (h : ∀ x ∈ s, p x = false) :
    cutLast? p s = none := by
  have hcut := cut_eq_self (p := p) (s := s.reverse) fun x hx => h x (List.mem_reverse.mp hx)
  simp [cutLast?, hcut]

theorem cutLast?_eq_some {p : A → Bool} {s front rest : List A}
    (h : cutLast? p s = some (front, rest)) : ∃ d, p d = true ∧ s = front ++ d :: rest := by
  rw [cutLast?, Option.map_eq_some_iff] at h
  obtain ⟨front', hfront, hpair⟩ := h
  obtain ⟨rfl, rfl⟩ := Prod.mk.inj hpair
  obtain ⟨d, hd, hs⟩ := @cut_eq_some _ p s.reverse (cut p s.reverse).1 _ (Prod.ext rfl hfront)
  refine ⟨d, hd, ?_⟩
  have hreverse := congrArg List.reverse hs
  simpa using hreverse

/-- The parts between delimiters: always one more than there are delimiters. -/
def pieces (p : A → Bool) : List A → List (List A)
  | [] => [[]]
  | x :: s =>
    if p x then [] :: pieces p s
    else match pieces p s with
      | [] => [[x]]
      | a :: r => (x :: a) :: r

theorem pieces_ne_nil (p : A → Bool) (s : List A) : pieces p s ≠ [] := by
  cases s with
  | nil => simp [pieces]
  | cons x s =>
    rw [pieces]
    split
    · simp
    · split <;> simp

/-- Without a delimiter there is one part. -/
theorem pieces_eq_self {p : A → Bool} {s : List A} (h : ∀ x ∈ s, p x = false) :
    pieces p s = [s] := by
  induction s with
  | nil => rfl
  | cons x s ih =>
    have hx : p x = false := h x (by simp)
    have hs : pieces p s = [s] := ih fun y hy => h y (List.mem_cons_of_mem x hy)
    simp [pieces, hx, hs]

/-- A delimiter ends a part. -/
theorem pieces_append {p : A → Bool} {s : List A} {d : A} (rest : List A)
    (h : ∀ x ∈ s, p x = false) (hd : p d = true) :
    pieces p (s ++ d :: rest) = s :: pieces p rest := by
  induction s with
  | nil => simp [pieces, hd]
  | cons x s ih =>
    have hx : p x = false := h x (by simp)
    have hs := ih fun y hy => h y (List.mem_cons_of_mem x hy)
    simp [pieces, hx, hs]

/-- Every part with the delimiter in front. -/
def led (d : A) (parts : List (List A)) : List A := parts.flatMap fun a => d :: a

/-- The parts with the delimiter between them. -/
def joined (d : A) : List (List A) → List A
  | [] => []
  | a :: r => a ++ led d r

/-- The parts put together again are the whole. -/
theorem joined_pieces [BEq A] [LawfulBEq A] (d : A) (s : List A) :
    joined d (pieces (· == d) s) = s := by
  induction s with
  | nil => rfl
  | cons x s ih =>
    match hp : pieces (· == d) s with
    | [] => exact absurd hp (pieces_ne_nil _ s)
    | a :: r =>
      rw [hp] at ih
      by_cases hx : (x == d) = true
      · have hxd : x = d := eq_of_beq hx
        simpa [pieces, hp, hxd, joined, led] using ih
      · simpa [pieces, hp, hx, joined] using ih

/-- No part has a delimiter. -/
theorem pieces_avoid {p : A → Bool} {s : List A} : ∀ a ∈ pieces p s, ∀ x ∈ a, p x = false := by
  induction s with
  | nil => simp [pieces]
  | cons x s ih =>
    intro a ha
    rw [pieces] at ha
    by_cases hx : p x = true
    · rw [if_pos hx] at ha
      rcases List.mem_cons.mp ha with rfl | ha
      · simp
      · exact ih a ha
    · rw [if_neg hx] at ha
      have hxf : p x = false := by simpa using hx
      match hp : pieces p s with
      | [] => exact absurd hp (pieces_ne_nil p s)
      | b :: r =>
        rw [hp] at ha ih
        simp only at ha
        rcases List.mem_cons.mp ha with rfl | ha
        · intro y hy
          rcases List.mem_cons.mp hy with rfl | hy
          · exact hxf
          · exact ih b List.mem_cons_self y hy
        · exact ih a (List.mem_cons_of_mem _ ha)

theorem mem_of_mem_pieces {p : A → Bool} {s a : List A} (ha : a ∈ pieces p s) {x : A}
    (hx : x ∈ a) : x ∈ s := by
  induction s generalizing a with
  | nil =>
    rw [List.mem_singleton.mp ha] at hx
    cases hx
  | cons y s ih =>
    rw [pieces] at ha
    split at ha
    · rcases List.mem_cons.mp ha with rfl | ha
      · cases hx
      · exact List.mem_cons_of_mem _ (ih ha hx)
    split at ha
    · rw [List.mem_singleton.mp ha, List.mem_singleton] at hx
      exact hx ▸ List.mem_cons_self
    · next b r hpieces =>
      rcases List.mem_cons.mp ha with rfl | ha
      · rcases List.mem_cons.mp hx with rfl | hx
        · exact List.mem_cons_self
        · exact List.mem_cons_of_mem _ (ih (hpieces ▸ List.mem_cons_self) hx)
      · exact List.mem_cons_of_mem _ (ih (hpieces ▸ List.mem_cons_of_mem _ ha) hx)

/-- Parts without delimiters are found again. -/
theorem pieces_joined {p : A → Bool} {d : A} (hd : p d = true) {a : List A} {r : List (List A)}
    (h : ∀ b ∈ a :: r, ∀ x ∈ b, p x = false) : pieces p (joined d (a :: r)) = a :: r := by
  induction r generalizing a with
  | nil =>
    rw [joined, led, List.flatMap_nil, List.append_nil]
    exact pieces_eq_self (h a List.mem_cons_self)
  | cons b r ih =>
    have hlater := ih (a := b) fun c hc => h c (List.mem_cons_of_mem _ hc)
    rw [joined, led, List.flatMap_cons, List.cons_append,
      pieces_append _ (h a List.mem_cons_self) hd]
    rw [joined, led] at hlater
    rw [hlater]

/-- The lines of a text: one more than it has line feeds. -/
def lines (s : String) : List String := (pieces (· == '\n') s.toList).map String.ofList

end SmokeProbe.Text
