import SmokeProbe.Proofs.RecordReading
import SmokeProbe.Proofs.TokenRecognition

/-!
# Texts that are accepted

Whatever a reader takes from the front of a text is the text of a syntax tree. Together with the
verdict on such texts this makes the grammar exact: a text that is no tree's is refused.
-/
namespace SmokeProbe.Json

/-! ## Values

What is left between a token and the next belongs to the token in front of it, and in front of the
first one to the first. -/

/-- A text that begins with the text of a value, and what is left of it. -/
def Begins (s rest : List Char) : Prop :=
  ∃ (g : Gap) (t : Tree), s = g.chars ++ (t.text ++ rest)

def Gap.append (g h : Gap) : Gap :=
  ⟨g.chars ++ h.chars, fun c hc => (List.mem_append.mp hc).elim (g.blank c) (h.blank c)⟩

theorem begins_gap (g : Gap) {s rest : List Char} (h : Begins s rest) :
    Begins (g.chars ++ s) rest := by
  obtain ⟨g', t, rfl⟩ := h
  exact ⟨g.append g', t, by simp [Gap.append]⟩

theorem begins_tree (t : Tree) (rest : List Char) : Begins (t.text ++ rest) rest :=
  ⟨.none, t, rfl⟩

theorem begins_array (g inner : Gap) (items : List (Spaced Tree)) (rest : List Char) :
    Begins ('[' :: (g.chars ++ (Tree.itemsText true items ++ (inner.chars ++ ']' :: rest))))
      rest := by
  cases items with
  | nil =>
    exact ⟨.none, .array [] (g.append inner),
      by simp [Gap.none, Gap.append, Tree.text, Tree.itemsText]⟩
  | cons i items =>
    refine ⟨.none, .array (⟨g.append i.before, i.token, i.after⟩ :: items) inner, ?_⟩
    simp [Gap.none, Gap.append, Tree.text, Tree.itemsText]

theorem begins_object (g inner : Gap) (members : List Member) (rest : List Char) :
    Begins
      ('\x7b' :: (g.chars ++ (Tree.membersText true members ++ (inner.chars ++ '\x7d' :: rest))))
      rest := by
  cases members with
  | nil =>
    exact ⟨.none, .object [] (g.append inner),
      by simp [Gap.none, Gap.append, Tree.text, Tree.membersText]⟩
  | cons m members =>
    refine
      ⟨.none, .object ((⟨g.append m.1.before, m.1.token, m.1.after⟩, m.2) :: members) inner, ?_⟩
    simp [Gap.none, Gap.append, Tree.text, Tree.membersText]

theorem number_begins (negative : Bool) {s rest : List Char}
    (h : ∃ n : Numeral, n.negative = negative ∧ s = n.unsigned ++ rest) :
    ∃ t : Tree, (if negative then '-' :: s else s) = t.text ++ rest := by
  obtain ⟨n, rfl, rfl⟩ := h
  refine ⟨.number n, ?_⟩
  rw [Tree.text, Numeral.text]
  split <;> rfl

theorem string_begins {s rest : List Char}
    (h : ∃ letters : List Letter, s = letters.flatMap Letter.text ++ '\x22' :: rest) :
    ∃ t : Tree, '\x22' :: s = t.text ++ rest := by
  obtain ⟨letters, rfl⟩ := h
  exact ⟨.string letters, by simp [Tree.text]⟩

theorem scalar?_inv {s rest : List Char} {v : Json} (h : scalar? s = some (.ok (v, rest))) :
    ∃ t : Tree, s = t.text ++ rest := by
  cases s with
  | nil => cases h
  | cons c t =>
    rw [scalar?] at h
    split at h
    · next hc =>
      obtain ⟨u, hu, hr⟩ := map_eq_ok.mp (Option.some.inj h)
      cases hr
      exact ⟨.null, by rw [hc, word_inv hu]; rfl⟩
    split at h
    · next hc =>
      obtain ⟨u, hu, hr⟩ := map_eq_ok.mp (Option.some.inj h)
      cases hr
      exact ⟨.bool true, by rw [hc, word_inv hu]; rfl⟩
    split at h
    · next hc =>
      obtain ⟨u, hu, hr⟩ := map_eq_ok.mp (Option.some.inj h)
      cases hr
      exact ⟨.bool false, by rw [hc, word_inv hu]; rfl⟩
    split at h
    · next hc =>
      rw [hc]
      exact number_begins true (number_inv (Option.some.inj h))
    split at h
    · exact number_begins false (number_inv (Option.some.inj h))
    split at h
    · next hc =>
      obtain ⟨⟨k, u⟩, hu, hr⟩ := map_eq_ok.mp (Option.some.inj h)
      cases hr
      rw [hc]
      exact string_begins (string_inv hu)
    · cases h

theorem skipScalar?_inv {s rest : List Char} (h : skipScalar? s = some (.ok rest)) :
    ∃ t : Tree, s = t.text ++ rest := by
  cases s with
  | nil => cases h
  | cons c t =>
    rw [skipScalar?] at h
    split at h
    · next hc => exact ⟨.null, by rw [hc, word_inv (Option.some.inj h)]; rfl⟩
    split at h
    · next hc => exact ⟨.bool true, by rw [hc, word_inv (Option.some.inj h)]; rfl⟩
    split at h
    · next hc => exact ⟨.bool false, by rw [hc, word_inv (Option.some.inj h)]; rfl⟩
    split at h
    · next hc =>
      rw [hc]
      exact number_begins true (skipNumber_inv (Option.some.inj h) true)
    split at h
    · exact number_begins false (skipNumber_inv (Option.some.inj h) false)
    split at h
    · next hc =>
      rw [hc]
      exact string_begins (skipCharsFrom_inv (Option.some.inj h))
    · cases h

theorem nextItem_inv {first : Bool} {s rest : List Char}
    (h : nextItem first s = .ok (true, rest)) :
    ∃ g h : Gap, s = g.chars ++ ((if first then [] else [',']) ++ (h.chars ++ rest)) := by
  obtain ⟨g, hg⟩ := exists_gap s
  unfold nextItem at h
  split at h
  · cases h
  · next c t hs =>
    rw [hs] at hg
    split at h
    · cases h
    split at h
    · next hfirst =>
      cases h
      exact ⟨g, .none, by rw [hg, hfirst]; rfl⟩
    split at h
    · next hfirst hc =>
      obtain ⟨g', hg'⟩ := exists_gap t
      split at h
      · cases h
      · next d more hmore =>
        rw [hmore] at hg'
        split at h
        · cases h
        · cases h
          exact ⟨g, g', by rw [hg, hc, if_neg hfirst, hg']; rfl⟩
    · cases h

theorem nextItem_close_inv {first : Bool} {s rest : List Char}
    (h : nextItem first s = .ok (false, rest)) :
    ∃ (g : Gap) (t : List Char), s = g.chars ++ ']' :: t ∧ rest = ']' :: t := by
  obtain ⟨g, hg⟩ := exists_gap s
  unfold nextItem at h
  split at h
  · cases h
  · next c t hs =>
    rw [hs] at hg
    split at h
    · next hc =>
      cases h
      exact ⟨g, t, by rw [hg, hc], by rw [hc]⟩
    split at h
    · cases h
    split at h
    · split at h
      · cases h
      · split at h <;> cases h
    · cases h

theorem nextMember_inv {first : Bool} {s rest : List Char}
    (h : nextMember first s = .ok (true, rest)) :
    ∃ g h : Gap, s = g.chars ++ ((if first then [] else [',']) ++ (h.chars ++ '\x22' :: rest)) := by
  obtain ⟨g, hg⟩ := exists_gap s
  unfold nextMember at h
  split at h
  · cases h
  · next c t hs =>
    rw [hs] at hg
    split at h
    · cases h
    split at h
    · next hfirst =>
      split at h
      · next hc =>
        cases h
        exact ⟨g, .none, by rw [hg, hc, hfirst]; rfl⟩
      · cases h
    split at h
    · next hfirst hc =>
      obtain ⟨g', hg'⟩ := exists_gap t
      split at h
      · cases h
      · next d more hmore =>
        rw [hmore] at hg'
        split at h
        · next hd =>
          cases h
          exact ⟨g, g', by rw [hg, hc, if_neg hfirst, hg', hd]; rfl⟩
        · split at h <;> cases h
    · cases h

theorem nextMember_close_inv {first : Bool} {s rest : List Char}
    (h : nextMember first s = .ok (false, rest)) :
    ∃ (g : Gap) (t : List Char), s = g.chars ++ '\x7d' :: t ∧ rest = '\x7d' :: t := by
  obtain ⟨g, hg⟩ := exists_gap s
  unfold nextMember at h
  split at h
  · cases h
  · next c t hs =>
    rw [hs] at hg
    split at h
    · next hc =>
      cases h
      exact ⟨g, t, by rw [hg, hc], by rw [hc]⟩
    split at h
    · split at h <;> cases h
    split at h
    · split at h
      · cases h
      · split at h
        · cases h
        · split at h <;> cases h
    · cases h

theorem colon_inv {s rest : List Char} (h : colon s = .ok rest) :
    ∃ g : Gap, s = g.chars ++ ':' :: rest := by
  obtain ⟨g, hg⟩ := exists_gap s
  unfold colon at h
  split at h
  · cases h
  · next c t hs =>
    rw [hs] at hg
    split at h
    · next hc =>
      cases h
      exact ⟨g, by rw [hg, hc]⟩
    · cases h

section
variable {A : Type} {item : List Char → Except Stop (A × List Char)}
  (hitem : ∀ s r, item s = .ok r → Begins s r.2)
include hitem

theorem items_inv {fuel : Nat} {first : Bool} {s rest : List Char} {xs : List A}
    (h : items item fuel first s = .ok (xs, rest)) :
    ∃ (g : Gap) (its : List (Spaced Tree)) (inner : Gap),
      s = g.chars ++ (Tree.itemsText first its ++ (inner.chars ++ ']' :: rest)) := by
  induction fuel generalizing first s xs with
  | zero => cases h
  | succ fuel ih =>
    rw [items] at h
    obtain ⟨⟨more, s'⟩, hnext, h⟩ := bind_eq_ok.mp h
    cases more with
    | false =>
      obtain ⟨u, hclose, h⟩ := bind_eq_ok.mp h
      obtain ⟨g, t, rfl, rfl⟩ := nextItem_close_inv hnext
      rw [closeArray_text] at hclose
      cases hclose
      cases h
      exact ⟨g, [], .none, rfl⟩
    | true =>
      obtain ⟨⟨x, u⟩, hx, h⟩ := bind_eq_ok.mp h
      obtain ⟨⟨ys, w⟩, hys, h⟩ := bind_eq_ok.mp h
      cases h
      obtain ⟨g, g', rfl⟩ := nextItem_inv hnext
      obtain ⟨before, t, rfl⟩ := hitem _ _ hx
      obtain ⟨after, its, inner, rfl⟩ := ih hys
      refine ⟨g, ⟨g'.append before, t, after⟩ :: its, inner, ?_⟩
      simp [Tree.itemsText, Gap.append]

theorem members_inv {fuel : Nat} {first : Bool} {s rest : List Char} {xs : List (String × A)}
    (h : members item fuel first s = .ok (xs, rest)) :
    ∃ (g : Gap) (ms : List Member) (inner : Gap),
      s = g.chars ++ (Tree.membersText first ms ++ (inner.chars ++ '\x7d' :: rest)) := by
  induction fuel generalizing first s xs with
  | zero => cases h
  | succ fuel ih =>
    rw [members] at h
    obtain ⟨⟨more, s'⟩, hnext, h⟩ := bind_eq_ok.mp h
    cases more with
    | false =>
      obtain ⟨u, hclose, h⟩ := bind_eq_ok.mp h
      obtain ⟨g, t, rfl, rfl⟩ := nextMember_close_inv hnext
      rw [closeObject_text] at hclose
      cases hclose
      cases h
      exact ⟨g, [], .none, rfl⟩
    | true =>
      obtain ⟨⟨k, u⟩, hk, h⟩ := bind_eq_ok.mp h
      obtain ⟨u', hcolon, h⟩ := bind_eq_ok.mp h
      obtain ⟨⟨x, w⟩, hx, h⟩ := bind_eq_ok.mp h
      obtain ⟨⟨ys, w'⟩, hys, h⟩ := bind_eq_ok.mp h
      cases h
      obtain ⟨g, g', rfl⟩ := nextMember_inv hnext
      obtain ⟨letters, rfl⟩ := string_inv hk
      obtain ⟨afterKey, rfl⟩ := colon_inv hcolon
      obtain ⟨before, t, rfl⟩ := hitem _ _ hx
      obtain ⟨after, ms, inner, rfl⟩ := ih hys
      refine ⟨g, (⟨g', letters, afterKey⟩, ⟨before, t, after⟩) :: ms, inner, ?_⟩
      simp [Tree.membersText]

end

theorem value_inv {room : Nat} {s : List Char} {r : Json × List Char} (h : value room s = .ok r) :
    Begins s r.2 := by
  induction room using Nat.strongRecOn generalizing s r with
  | ind room ih =>
    obtain ⟨g, hg⟩ := exists_gap s
    rw [hg]
    apply begins_gap
    unfold value at h
    simp only at h
    split at h
    · next hs =>
      obtain ⟨t, ht⟩ := scalar?_inv (h ▸ hs)
      rw [ht]
      exact begins_tree t _
    · cases h
    · next c t hs =>
      rw [hs]
      split at h
      · next hc =>
        cases room with
        | zero => cases h
        | succ room =>
          obtain ⟨⟨xs, u⟩, hxs, h⟩ := bind_eq_ok.mp h
          cases h
          obtain ⟨g', its, inner, rfl⟩ := items_inv (fun _ _ => ih room (Nat.lt_succ_self room)) hxs
          rw [hc]
          exact begins_array g' inner its u
      split at h
      · next hc =>
        cases room with
        | zero => cases h
        | succ room =>
          obtain ⟨⟨ms, u⟩, hms, h⟩ := bind_eq_ok.mp h
          cases h
          obtain ⟨g', ms', inner, rfl⟩ :=
            members_inv (fun _ _ => ih room (Nat.lt_succ_self room)) hms
          rw [hc]
          exact begins_object g' inner ms' u
      · cases h

/-! ## Skipped values -/

theorem skipKey_inv {s rest : List Char} (h : skipKey s = .ok rest) :
    ∃ (g : Gap) (letters : List Letter) (after : Gap),
      s = g.chars ++
        '\x22' :: (letters.flatMap Letter.text ++ '\x22' :: (after.chars ++ ':' :: rest)) := by
  obtain ⟨g, hg⟩ := exists_gap s
  unfold skipKey at h
  split at h
  · cases h
  · next c t hs =>
    rw [hs] at hg
    split at h
    · next hc =>
      obtain ⟨u, hu, hcolon⟩ := bind_eq_ok.mp h
      obtain ⟨letters, rfl⟩ := skipCharsFrom_inv hu
      obtain ⟨after, rfl⟩ := colon_inv hcolon
      exact ⟨g, letters, after, by rw [hg, hc]⟩
    · cases h

section
variable {item : List Char → Except Stop (List Char)}
  (hitem : ∀ s rest, item s = .ok rest → Begins s rest)
include hitem

theorem skipItems_inv {fuel : Nat} {first : Bool} {s rest : List Char}
    (h : skipItems item fuel first s = .ok rest) :
    ∃ (g : Gap) (its : List (Spaced Tree)) (inner : Gap),
      s = g.chars ++ (Tree.itemsText first its ++ (inner.chars ++ ']' :: rest)) := by
  induction fuel generalizing first s with
  | zero => cases h
  | succ fuel ih =>
    obtain ⟨g, hg⟩ := exists_gap s
    rw [skipItems] at h
    split at h
    · cases h
    · next c t hs =>
      rw [hs] at hg
      split at h
      · next hc =>
        cases h
        exact ⟨g, [], .none, by rw [hg, hc]; rfl⟩
      split at h
      · next hfirst =>
        obtain ⟨u, hu, h⟩ := bind_eq_ok.mp h
        obtain ⟨before, t', ht⟩ := hitem _ _ hu
        obtain ⟨after, its, inner, rfl⟩ := ih h
        exact ⟨g, ⟨before, t', after⟩ :: its, inner, by rw [hg, ht]; simp [Tree.itemsText, hfirst]⟩
      split at h
      · next hfirst hc =>
        obtain ⟨u, hu, h⟩ := bind_eq_ok.mp h
        obtain ⟨before, t', ht⟩ := hitem _ _ hu
        obtain ⟨after, its, inner, rfl⟩ := ih h
        exact ⟨g, ⟨before, t', after⟩ :: its, inner,
          by rw [hg, hc, ht]; simp [Tree.itemsText, hfirst]⟩
      · cases h

theorem skipMembers_inv {fuel : Nat} {first : Bool} {s rest : List Char}
    (h : skipMembers item fuel first s = .ok rest) :
    ∃ (g : Gap) (ms : List Member) (inner : Gap),
      s = g.chars ++ (Tree.membersText first ms ++ (inner.chars ++ '\x7d' :: rest)) := by
  induction fuel generalizing first s with
  | zero => cases h
  | succ fuel ih =>
    obtain ⟨g, hg⟩ := exists_gap s
    rw [skipMembers] at h
    split at h
    · cases h
    · next c t hs =>
      rw [hs] at hg
      split at h
      · next hc =>
        cases h
        exact ⟨g, [], .none, by rw [hg, hc]; rfl⟩
      split at h
      · next hfirst =>
        obtain ⟨u, hu, hvalue⟩ := bind_eq_ok.mp h
        obtain ⟨u', hu', hlater⟩ := bind_eq_ok.mp hvalue
        obtain ⟨g', letters, afterKey, hkey⟩ := skipKey_inv hu
        obtain ⟨before, t', rfl⟩ := hitem _ _ hu'
        obtain ⟨after, ms, inner, rfl⟩ := ih hlater
        exact ⟨g, (⟨g', letters, afterKey⟩, ⟨before, t', after⟩) :: ms, inner,
          by rw [hg, hkey]; simp [Tree.membersText, hfirst]⟩
      split at h
      · next hfirst hc =>
        obtain ⟨u, hu, hvalue⟩ := bind_eq_ok.mp h
        obtain ⟨u', hu', hlater⟩ := bind_eq_ok.mp hvalue
        obtain ⟨g', letters, afterKey, hkey⟩ := skipKey_inv hu
        obtain ⟨before, t', rfl⟩ := hitem _ _ hu'
        obtain ⟨after, ms, inner, rfl⟩ := ih hlater
        exact ⟨g, (⟨g', letters, afterKey⟩, ⟨before, t', after⟩) :: ms, inner,
          by rw [hg, hc, hkey]; simp [Tree.membersText, hfirst]⟩
      · cases h

end

theorem skipValueFrom_inv {fuel : Nat} {s rest : List Char} (h : skipValueFrom fuel s = .ok rest) :
    Begins s rest := by
  induction fuel generalizing s rest with
  | zero => cases h
  | succ fuel ih =>
    obtain ⟨g, hg⟩ := exists_gap s
    rw [hg]
    apply begins_gap
    rw [skipValueFrom] at h
    split at h
    · next hs =>
      obtain ⟨t, ht⟩ := skipScalar?_inv (h ▸ hs)
      rw [ht]
      exact begins_tree t _
    · cases h
    · next c t hs =>
      rw [hs]
      split at h
      · next hc =>
        obtain ⟨g', its, inner, rfl⟩ := skipItems_inv (fun _ _ => ih) h
        rw [hc]
        exact begins_array g' inner its rest
      · split at h
        · next hc =>
          obtain ⟨g', ms, inner, rfl⟩ := skipMembers_inv (fun _ _ => ih) h
          rw [hc]
          exact begins_object g' inner ms rest
        · cases h

/-! ## Records -/

theorem wrongKind_ne_ok {A : Type} {expected : String} {s : List Char} {a : A} :
    wrongKind expected s ≠ .ok a := by
  unfold wrongKind
  intro h
  split at h
  · cases h
  · cases h
  · cases h
  · split at h
    · cases h
    · split at h <;> cases h

theorem fieldValue_inv {room : Nat} {kind : FieldKind} {s : List Char} {r : Json × List Char}
    (h : fieldValue room kind s = .ok r) : Begins s r.2 := by
  cases kind with
  | any => exact value_inv h
  | text =>
    obtain ⟨g, hg⟩ := exists_gap s
    rw [hg]
    apply begins_gap
    rw [fieldValue] at h
    split at h
    · cases h
    · next c t hs =>
      rw [hs]
      split at h
      · next hc =>
        obtain ⟨⟨k, u⟩, hk, hr⟩ := map_eq_ok.mp h
        cases hr
        obtain ⟨tree, ht⟩ := string_begins (string_inv hk)
        rw [hc, ht]
        exact begins_tree tree u
      · exact absurd h wrongKind_ne_ok

theorem recordMembers_inv {room : Nat} {fields : List (String × FieldKind)} {fuel : Nat}
    {first : Bool} {found found' : List (String × Json)} {s rest : List Char}
    (h : recordMembers room fields fuel first found s = .ok (found', rest)) :
    ∃ (g : Gap) (ms : List Member) (inner : Gap) (t : List Char),
      rest = '\x7d' :: t ∧ s = g.chars ++ (Tree.membersText first ms ++ (inner.chars ++ rest)) := by
  induction fuel generalizing first found s with
  | zero => cases h
  | succ fuel ih =>
    rw [recordMembers] at h
    obtain ⟨⟨more, s'⟩, hnext, h⟩ := bind_eq_ok.mp h
    cases more with
    | false =>
      obtain ⟨g, t, rfl, rfl⟩ := nextMember_close_inv hnext
      cases h
      exact ⟨g, [], .none, t, rfl, rfl⟩
    | true =>
      obtain ⟨⟨k, u⟩, hk, hmember⟩ := bind_eq_ok.mp h
      obtain ⟨g, g', rfl⟩ := nextMember_inv hnext
      obtain ⟨letters, rfl⟩ := string_inv hk
      -- Fields are read and other members passed over, so the value is found in two ways.
      obtain ⟨afterKey, found'', w, hbegins, hlater⟩ :
          ∃ (afterKey : Gap) (found'' : _) (w : List Char),
          (∃ v, u = afterKey.chars ++ ':' :: v ∧ Begins v w) ∧
            recordMembers room fields fuel false found'' w = .ok (found', rest) := by
        simp only at hmember
        split at hmember
        · split at hmember
          · cases hmember
          · obtain ⟨v, hcolon, hvalue⟩ := bind_eq_ok.mp hmember
            obtain ⟨⟨x, w⟩, hx, hlater⟩ := bind_eq_ok.mp hvalue
            obtain ⟨afterKey, rfl⟩ := colon_inv hcolon
            exact ⟨afterKey, _, w, ⟨v, rfl, fieldValue_inv hx⟩, hlater⟩
        · obtain ⟨v, hcolon, hvalue⟩ := bind_eq_ok.mp hmember
          obtain ⟨w, hw, hlater⟩ := bind_eq_ok.mp hvalue
          obtain ⟨afterKey, rfl⟩ := colon_inv hcolon
          exact ⟨afterKey, _, w, ⟨v, rfl, skipValueFrom_inv hw⟩, hlater⟩
      obtain ⟨v, rfl, before, t, rfl⟩ := hbegins
      obtain ⟨after, ms, inner, t', rfl, rfl⟩ := ih hlater
      refine ⟨g, (⟨g', letters, afterKey⟩, ⟨before, t, after⟩) :: ms, inner, t', rfl, ?_⟩
      simp [Tree.membersText]

theorem recordItems_inv {room : Nat} {shape : Shape} {fields : List (String × FieldKind)}
    {position : Nat} {s rest : List Char} {vs : List Json}
    (h : recordItems room shape fields position s = .ok (vs, rest)) :
    ∃ (g : Gap) (its : List (Spaced Tree)) (inner : Gap),
      s = g.chars ++ (Tree.itemsText (position == 0) its ++ (inner.chars ++ rest)) := by
  induction fields generalizing position s vs with
  | nil =>
    cases h
    exact ⟨.none, [], .none, rfl⟩
  | cons field fields ih =>
    rw [recordItems] at h
    obtain ⟨⟨more, s'⟩, hnext, h⟩ := bind_eq_ok.mp h
    cases more with
    | false => cases h
    | true =>
      obtain ⟨⟨x, u⟩, hx, h⟩ := bind_eq_ok.mp h
      obtain ⟨⟨xs, w⟩, hxs, h⟩ := bind_eq_ok.mp h
      cases h
      obtain ⟨g, g', rfl⟩ := nextItem_inv hnext
      obtain ⟨before, t, rfl⟩ := fieldValue_inv hx
      obtain ⟨after, its, inner, rfl⟩ := ih hxs
      refine ⟨g, ⟨g'.append before, t, after⟩ :: its, inner, ?_⟩
      rw [show (position + 1 == 0) = false from rfl]
      simp [Tree.itemsText, Gap.append]

theorem closeArray_inv {s rest : List Char} (h : closeArray s = .ok rest) :
    ∃ g : Gap, s = g.chars ++ ']' :: rest := by
  obtain ⟨g, hg⟩ := exists_gap s
  unfold closeArray at h
  split at h
  · cases h
  · next c t hs =>
    rw [hs] at hg
    split at h
    · next hc =>
      cases h
      exact ⟨g, by rw [hg, hc]⟩
    split at h
    · split at h
      · cases h
      · split at h <;> cases h
    · cases h

theorem record_inv {shape : Shape} {s rest : List Char} {vs : List Json}
    (h : record shape s = .ok (vs, rest)) : Begins s rest := by
  obtain ⟨g, hg⟩ := exists_gap s
  rw [hg]
  apply begins_gap
  unfold record at h
  split at h
  · cases h
  · next c t hs =>
    rw [hs]
    split at h
    · next hc =>
      obtain ⟨⟨xs, u⟩, hxs, hclose⟩ := bind_eq_ok.mp h
      obtain ⟨w, hw, hpair⟩ := bind_eq_ok.mp hclose
      cases hpair
      obtain ⟨g', its, inner, rfl⟩ := recordItems_inv hxs
      obtain ⟨inner', rfl⟩ := closeArray_inv hw
      rw [hc]
      have hbegins := begins_array g' (inner.append inner') its rest
      simpa [Gap.append] using hbegins
    split at h
    · next hc =>
      obtain ⟨⟨found, u⟩, hfound, hclose⟩ := bind_eq_ok.mp h
      obtain ⟨g', ms, inner, t', rfl, rfl⟩ := recordMembers_inv hfound
      simp only at hclose
      split at hclose
      · cases hclose
      · rw [closeObject_text] at hclose
        cases hclose
        rw [hc]
        exact begins_object g' inner ms rest
    · exact absurd h wrongKind_ne_ok

/-- Only documents are read. -/
theorem parseRecord_document {shape : Shape} {text : String} {vs : List Json}
    (h : parseRecord shape text = .ok vs) :
    ∃ d : Spaced Tree, text = String.ofList (documentText d) := by
  unfold parseRecord at h
  split at h
  · next hrecord =>
    obtain ⟨⟨xs, rest⟩, hxs, hfinish⟩ := bind_eq_ok.mp hrecord
    obtain ⟨before, t, ht⟩ := record_inv hxs
    obtain ⟨after, hafter⟩ := exists_gap rest
    unfold finish at hfinish
    split at hfinish
    · next hend =>
      refine ⟨⟨before, t, after⟩, ?_⟩
      simp only at hend
      rw [hend, List.append_nil] at hafter
      rw [documentText, List.append_assoc, ← hafter, ← ht, String.ofList_toList]
    · cases hfinish
  · cases h

end SmokeProbe.Json
