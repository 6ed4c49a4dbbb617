import Mathlib.Data.List.TakeWhile
import SmokeProbe.Text.Blank
import SmokeProbe.Text.Pieces

/-!
# Cutting a text that goes on

Where a text is cut does not depend on what stands behind the delimiter it is cut at, and the last
part reaches to the end of the text, whatever that is. Trimming changes nothing if there is nothing
to trim at either end.
-/
namespace SmokeProbe.Text

section
variable {A : Type} {p : A → Bool} {s : List A} {d : A}

section
variable (hd : p d = false) (t : List A)
include hd

theorem dropWhile_stop : (s ++ d :: t).dropWhile p = s.dropWhile p ++ d :: t := by
  rw [List.dropWhile_append]
  split
  · next hempty => rw [List.isEmpty_iff.mp hempty, List.dropWhile_cons_of_neg (by simp [hd])]; rfl
  · rfl

theorem dropWhile_span (hs : ∀ x ∈ s, p x = true) : (s ++ d :: t).dropWhile p = d :: t := by
  rw [List.dropWhile_append_of_pos hs, List.dropWhile_cons_of_neg (by simp [hd])]

theorem takeWhile_span (hs : ∀ x ∈ s, p x = true) : (s ++ d :: t).takeWhile p = s := by
  rw [List.takeWhile_append_of_pos hs, List.takeWhile_cons_of_neg (by simp [hd]), List.append_nil]

end

/-- What can be taken ends at the first that cannot. -/
theorem span_of_dropWhile {t : List A} (h : s.dropWhile p = d :: t) :
    s = s.takeWhile p ++ d :: t ∧ (∀ x ∈ s.takeWhile p, p x = true) ∧ p d = false := by
  have hhead := List.head?_dropWhile_not p s
  rw [h] at hhead
  refine ⟨?_, fun x hx => List.mem_takeWhile_imp hx, by simpa using hhead⟩
  rw [← h, List.takeWhile_append_dropWhile]

end

theorem stripBoth_eq_nil {A : Type} {p : A → Bool} {s : List A} :
    stripBoth p s = [] ↔ ∀ x ∈ s, p x = true := by
  rw [stripBoth, List.reverse_eq_nil_iff, List.dropWhile_eq_nil_iff]
  constructor
  · intro h x hx
    rw [← List.takeWhile_append_dropWhile (p := p) (l := s), List.mem_append] at hx
    rcases hx with hx | hx
    · exact List.mem_takeWhile_imp hx
    · exact h x (List.mem_reverse.mpr hx)
  · intro h x hx
    exact h x ((List.dropWhile_sublist p).subset (List.mem_reverse.mp hx))

/-- What is dropped at the ends may as well not be there. -/
theorem stripBoth_padded {A : Type} {p : A → Bool} {front back : List A}
    (hfront : ∀ x ∈ front, p x = true) (hback : ∀ x ∈ back, p x = true) (s : List A) :
    stripBoth p (front ++ s ++ back) = stripBoth p s := by
  by_cases hs : ∀ x ∈ s, p x = true
  · rw [stripBoth_eq_nil.mpr hs, stripBoth_eq_nil]
    exact List.forall_mem_append.mpr ⟨List.forall_mem_append.mpr ⟨hfront, hs⟩, hback⟩
  · have hne : (s.dropWhile p).isEmpty = false := by
      rwa [List.isEmpty_eq_false_iff, Ne, List.dropWhile_eq_nil_iff]
    rw [stripBoth, stripBoth, List.append_assoc, List.dropWhile_append_of_pos hfront,
      List.dropWhile_append, hne, if_neg Bool.false_ne_true, List.reverse_append,
      List.dropWhile_append_of_pos fun x hx => hback x (List.mem_reverse.mp hx)]

/-- Nothing is dropped that does not stand at an end. -/
theorem stripBoth_of_ends {A : Type} {p : A → Bool} {s : List A}
    (hfirst : ∀ x ∈ s.head?, p x = false) (hlast : ∀ x ∈ s.getLast?, p x = false) :
    stripBoth p s = s := by
  have hdrop : ∀ t : List A, (∀ x ∈ t.head?, p x = false) → t.dropWhile p = t := by
    intro t ht
    cases t with
    | nil => rfl
    | cons x t => rw [List.dropWhile_cons, ht x rfl, if_neg Bool.false_ne_true]
  rw [stripBoth, hdrop s hfirst, hdrop s.reverse (by rwa [List.head?_reverse]), List.reverse_reverse]

theorem stripBoth_eq_self {A : Type} {p : A → Bool} {s : List A} (h : ∀ x ∈ s, p x = false) :
    stripBoth p s = s :=
  stripBoth_of_ends (fun x hx => h x (List.mem_of_mem_head? hx))
    fun x hx => h x (List.mem_of_mem_getLast? hx)

theorem beq_of_not_mem {s : List Char} {d : Char} (h : d ∉ s) : ∀ c ∈ s, (c == d) = false := by
  intro c hc
  rw [beq_eq_false_iff_ne]
  rintro rfl
  exact h hc

/-- The last piece reaches to the end of the text. -/
theorem pieces_end {A : Type} {p : A → Bool} {t : List A} (ht : ∀ x ∈ t, p x = false)
    (s : List A) : ∃ init last, pieces p (s ++ t) = init ++ [last ++ t] := by
  induction s with
  | nil => exact ⟨[], [], pieces_eq_self ht⟩
  | cons x s ih =>
    obtain ⟨init, last, h⟩ := ih
    rw [List.cons_append, pieces, h]
    by_cases hx : p x = true
    · exact ⟨[] :: init, last, by rw [if_pos hx]; rfl⟩
    · rw [if_neg hx]
      cases init with
      | nil => exact ⟨[], x :: last, rfl⟩
      | cons a init => exact ⟨(x :: a) :: init, last, rfl⟩

/-- A delimiter in a text is one at which it is cut, wherever it goes on. -/
theorem exists_cut_of_mem {A : Type} {p : A → Bool} {s : List A} (h : ∃ x ∈ s, p x = true) :
    ∃ front back, ∀ t, cut p (s ++ t) = (front, some (back ++ t)) := by
  induction s with
  | nil => simp at h
  | cons x s ih =>
    by_cases hx : p x = true
    · exact ⟨[], s, fun t => by simp [cut, hx]⟩
    · obtain ⟨y, hy, hp⟩ := h
      have hs : y ∈ s := (List.mem_cons.mp hy).resolve_left (by rintro rfl; exact hx hp)
      obtain ⟨front, back, hcut⟩ := ih ⟨y, hs, hp⟩
      exact ⟨x :: front, back, fun t => by simp [cut, hx, hcut t]⟩

theorem cut_avoids {A : Type} {p : A → Bool} {s : List A} : ∀ x ∈ (cut p s).1, p x = false := by
  induction s with
  | nil => exact List.forall_mem_nil _
  | cons x s ih =>
    rw [cut]
    split
    · exact List.forall_mem_nil _
    · next hx => exact List.forall_mem_cons.mpr ⟨by simpa using hx, ih⟩

/-- What is cut off begins with the delimiter. -/
theorem cut_split {A : Type} (p : A → Bool) (s : List A) :
    ∃ back, s = (cut p s).1 ++ back ∧ ∀ x ∈ back.head?, p x = true := by
  induction s with
  | nil => exact ⟨[], rfl, nofun⟩
  | cons x s ih =>
    rw [cut]
    split
    · next hx => exact ⟨x :: s, rfl, by rintro y ⟨⟩; exact hx⟩
    · obtain ⟨back, hs, hback⟩ := ih
      exact ⟨back, congrArg (x :: ·) hs, hback⟩

/-- What is cut off leaves the front of the text. -/
theorem cut_prefix {A : Type} (p : A → Bool) (s : List A) : (cut p s).1 <+: s := by
  obtain ⟨back, hs, -⟩ := cut_split p s
  exact ⟨back, hs.symm⟩

theorem exists_first {A : Type} {p : A → Bool} {s : List A} (h : ∃ x ∈ s, p x = true) :
    ∃ front d back, s = front ++ d :: back ∧ p d = true ∧ ∀ x ∈ front, p x = false := by
  obtain ⟨front, back, hcut⟩ := exists_cut_of_mem h
  have hself := hcut []
  rw [List.append_nil, List.append_nil] at hself
  obtain ⟨d, hd, hs⟩ := cut_eq_some hself
  have havoids := cut_avoids (p := p) (s := s)
  rw [hself] at havoids
  exact ⟨front, d, back, hs, hd, havoids⟩

theorem cut_behind {A : Type} {p : A → Bool} {s : List A} (hs : ∀ x ∈ s, p x = false)
    (t : List A) : cut p (s ++ t) = (s ++ (cut p t).1, (cut p t).2) := by
  induction s with
  | nil => rfl
  | cons x s ih =>
    obtain ⟨hx, hs⟩ := List.forall_mem_cons.mp hs
    rw [List.cons_append, cut, hx, if_neg Bool.false_ne_true, ih hs]
    rfl

theorem cutLast?_before {A : Type} {p : A → Bool} {t : List A} (ht : ∀ x ∈ t, p x = false)
    (s : List A) : cutLast? p (s ++ t) = (cutLast? p s).map fun r => (r.1, r.2 ++ t) := by
  have hcut := cut_behind (p := p) (s := t.reverse)
    (fun x hx => ht x (List.mem_reverse.mp hx)) s.reverse
  rw [cutLast?, cutLast?, List.reverse_append, hcut, Option.map_map]
  simp [Function.comp_def]

theorem cutLast?_cases {A : Type} (p : A → Bool) (s : List A) :
    cutLast? p s = none ∧ (∀ x ∈ s, p x = false) ∨
      ∃ front d back, cutLast? p s = some (front, back) ∧ p d = true ∧ s = front ++ d :: back ∧
        ∀ x ∈ back, p x = false := by
  by_cases h : ∃ x ∈ s.reverse, p x = true
  · right
    obtain ⟨back, front, hcut⟩ := exists_cut_of_mem h
    have hself := hcut []
    rw [List.append_nil, List.append_nil] at hself
    have hlast : cutLast? p s = some (front.reverse, back.reverse) := by
      rw [cutLast?, hself]
      rfl
    obtain ⟨d, hd, hs⟩ := cutLast?_eq_some hlast
    refine ⟨front.reverse, d, back.reverse, hlast, hd, hs, ?_⟩
    intro x hx
    have havoids := cut_avoids (p := p) (s := s.reverse) x
    rw [hself] at havoids
    exact havoids (List.mem_reverse.mp hx)
  · left
    have hs : ∀ x ∈ s, p x = false := by
      intro x hx
      rw [← Bool.not_eq_true]
      exact fun hp => h ⟨x, List.mem_reverse.mpr hx, hp⟩
    exact ⟨cutLast?_eq_none hs, hs⟩

end SmokeProbe.Text
