import SmokeProbe.Proofs.JsonTokens

/-!
# Reading and skipping JSON values

The text of a syntax tree is read as what the tree says, and passed over as a whole at any depth.
The loops over items and members are treated for any reader of an item; the induction over trees
then only has to feed them.
-/
namespace SmokeProbe.Json

theorem isDigit_cases {d : Char} (h : Text.isDigit d = true) :
    isGap d = false ∧ d ≠ 'n' ∧ d ≠ 't' ∧ d ≠ 'f' ∧ d ≠ '-' ∧ d ≠ ',' ∧ d ≠ ']' ∧ d ≠ '\x7d' := by
  refine ⟨?_, ?_, ?_, ?_, ?_, ?_, ?_, ?_⟩
  · cases hg : isGap d with
    | false => rfl
    | true =>
      simp only [isGap, Bool.or_eq_true, beq_iff_eq] at hg
      rcases hg with ((rfl | rfl) | rfl) | rfl <;> cases h
  all_goals
    rintro rfl
    cases h

theorem Numeral.text_head (n : Numeral) :
    ∃ c s, n.text = c :: s ∧ (c = '-' ∨ Text.isDigit c = true) := by
  obtain ⟨d, ds, hd⟩ := List.exists_cons_of_ne_nil n.whole_ne_nil
  cases hn : n.negative with
  | true => exact ⟨'-', n.unsigned, by simp [text, hn], .inl rfl⟩
  | false =>
    refine ⟨d, ds ++ n.tail, by simp [text, hn, unsigned, hd], .inr ?_⟩
    exact n.isWhole d (by simp [hd])

namespace Tree

/-- A text begins with a character that is no blank, goes on with nothing and closes nothing. -/
theorem text_head (t : Tree) :
    ∃ c s, t.text = c :: s ∧ isGap c = false ∧ c ≠ ',' ∧ c ≠ ']' ∧ c ≠ '\x7d' := by
  cases t with
  | null => exact ⟨_, _, rfl, by decide⟩
  | bool b => cases b <;> exact ⟨_, _, rfl, by decide⟩
  | number n =>
    obtain ⟨c, s, ht, rfl | hc⟩ := n.text_head
    · exact ⟨'-', s, ht, by decide⟩
    · have hdigit := isDigit_cases hc
      exact ⟨c, s, ht, hdigit.1, hdigit.2.2.2.2.2⟩
  | string letters => exact ⟨'\x22', _, rfl, by decide⟩
  | array items inner => exact ⟨'[', _, rfl, by decide⟩
  | object members inner => exact ⟨'\x7b', _, rfl, by decide⟩

/-- Only a string begins with a quote. -/
theorem eq_string_of_text {t : Tree} {s : List Char} (h : t.text = '\x22' :: s) :
    ∃ letters, t = .string letters := by
  cases t with
  | string letters => exact ⟨letters, rfl⟩
  | bool b => cases b <;> cases h
  | number n =>
    obtain ⟨c, u, hc, rfl | hdigit⟩ := n.text_head
    · cases hc.symm.trans h
    · cases hc.symm.trans h
      cases hdigit
  | _ => cases h

theorem readItems_eq (items : List (Spaced Tree)) (room : Nat) :
    readItems items room = items.mapM fun i => i.token.read room := by
  induction items with
  | nil => rfl
  | cons i items ih => rw [List.mapM_cons, ← ih]; rfl

/-- A member, read by readers of its parts. -/
def readMember {A : Type} (den : Tree → Except Cause A)
    (m : Member) : Except Cause (String × A) := do
  let k ← Letter.read m.1.token
  let v ← den m.2.token
  pure (String.ofList k, v)

theorem readMembers_eq (members : List Member) (room : Nat) :
    readMembers members room = members.mapM (readMember fun t => t.read room) := by
  induction members with
  | nil => rfl
  | cons m members ih =>
    rw [List.mapM_cons, ← ih]
    simp only [readMember, bind_assoc, pure_bind]
    rfl

theorem length_le_itemsText (first : Bool) (items : List (Spaced Tree)) :
    items.length ≤ (itemsText first items).length := by
  induction items generalizing first with
  | nil => simp
  | cons i items ih =>
    obtain ⟨c, s, ht, _⟩ := i.token.text_head
    have h := ih false
    rw [itemsText, ht]
    simp only [List.length_append, List.length_cons]
    omega

theorem length_le_membersText (first : Bool)
    (members : List Member) :
    members.length ≤ (membersText first members).length := by
  induction members generalizing first with
  | nil => simp
  | cons m members ih =>
    have h := ih false
    rw [membersText]
    simp only [List.length_append, List.length_cons]
    omega

end Tree

/-! ## The loops -/

theorem nextItem_gap (first : Bool) (g : Gap) (s : List Char) :
    nextItem first (g.chars ++ s) = nextItem first s := by
  unfold nextItem
  rw [skipGaps_append]

theorem nextItem_close (first : Bool) (s : List Char) :
    nextItem first (']' :: s) = .ok (false, ']' :: s) := by
  rw [nextItem, skipGaps_cons (by decide)]
  rfl

theorem nextItem_item (first : Bool) (before : Gap) {c : Char} {s : List Char}
    (hgap : isGap c = false) (hclose : c ≠ ']') :
    nextItem first ((if first then [] else [',']) ++ (before.chars ++ c :: s)) =
      .ok (true, c :: s) := by
  cases first with
  | true =>
    rw [if_pos rfl, List.nil_append, nextItem_gap, nextItem, skipGaps_cons hgap]
    simp [hclose]
  | false =>
    rw [if_neg (by decide), List.singleton_append, nextItem, skipGaps_cons (by decide)]
    simp [skipGaps_append, skipGaps_cons hgap, hclose]

theorem nextMember_gap (first : Bool) (g : Gap) (s : List Char) :
    nextMember first (g.chars ++ s) = nextMember first s := by
  unfold nextMember
  rw [skipGaps_append]

theorem nextMember_close (first : Bool) (s : List Char) :
    nextMember first ('\x7d' :: s) = .ok (false, '\x7d' :: s) := by
  rw [nextMember, skipGaps_cons (by decide)]
  rfl

theorem nextMember_member (first : Bool) (before : Gap) (s : List Char) :
    nextMember first ((if first then [] else [',']) ++ (before.chars ++ '\x22' :: s)) =
      .ok (true, s) := by
  cases first with
  | true =>
    rw [if_pos rfl, List.nil_append, nextMember_gap, nextMember, skipGaps_cons (by decide)]
    rfl
  | false =>
    rw [if_neg (by decide), List.singleton_append, nextMember, skipGaps_cons (by decide)]
    simp [skipGaps_append, skipGaps_cons (c := '\x22') rfl]

theorem colon_text (g : Gap) (s : List Char) : colon (g.chars ++ ':' :: s) = .ok s := by
  rw [colon, skipGaps_append, skipGaps_cons (by decide)]
  rfl

theorem closeArray_text (s : List Char) : closeArray (']' :: s) = .ok s := by
  rw [closeArray, skipGaps_cons (by decide)]
  rfl

theorem closeObject_text (s : List Char) : closeObject ('\x7d' :: s) = .ok s := by
  rw [closeObject, skipGaps_cons (by decide)]
  rfl

theorem endsNumber_items (items : List (Spaced Tree)) (after inner : Gap) (rest : List Char) :
    EndsNumber (after.chars ++ (Tree.itemsText false items ++ (inner.chars ++ ']' :: rest))) := by
  apply endsNumber_gap
  cases items with
  | nil => exact endsNumber_gap inner (endsNumber_cons (by decide))
  | cons i items =>
    rw [Tree.itemsText]
    exact endsNumber_cons (by decide)

theorem endsNumber_members (members : List Member)
    (after inner : Gap) (rest : List Char) :
    EndsNumber
      (after.chars ++ (Tree.membersText false members ++ (inner.chars ++ '\x7d' :: rest))) := by
  apply endsNumber_gap
  cases members with
  | nil => exact endsNumber_gap inner (endsNumber_cons (by decide))
  | cons m members =>
    rw [Tree.membersText]
    exact endsNumber_cons (by decide)

/-- A reader that makes a given thing of a value, whatever stands in front of it and behind it. -/
def Reads {A : Type} (reader : List Char → Except Stop (A × List Char)) (t : Tree)
    (result : Except Cause A) : Prop :=
  ∀ (g : Gap) (rest : List Char), EndsNumber rest →
    verdict (reader (g.chars ++ (t.text ++ rest))) = result.map (·, rest)

section
variable {A : Type} {reader : List Char → Except Stop (A × List Char)}
  (den : Tree → Except Cause A)

theorem items_text (items : List (Spaced Tree))
    (h : ∀ i ∈ items, Reads reader i.token (den i.token)) (first : Bool) (g inner : Gap)
    (rest : List Char) (fuel : Nat) (hf : items.length < fuel) :
    verdict (Json.items reader fuel first
        (g.chars ++ (Tree.itemsText first items ++ (inner.chars ++ ']' :: rest)))) =
      (items.mapM fun i => den i.token).map (·, rest) := by
  induction items generalizing first g fuel with
  | nil =>
    obtain ⟨fuel, rfl⟩ := Nat.exists_eq_add_one.mpr hf
    rw [Tree.itemsText, List.nil_append, Json.items, nextItem_gap, nextItem_gap, nextItem_close]
    simp only [ok_bind, Bool.false_eq_true, if_false, closeArray_text]
    rfl
  | cons i items ih =>
    obtain ⟨fuel, rfl⟩ := Nat.exists_eq_add_one.mpr (Nat.zero_lt_of_lt hf)
    obtain ⟨c, s, ht, hgap, _, hclose, _⟩ := i.token.text_head
    obtain ⟨hi, hitems⟩ := List.forall_mem_cons.mp h
    have hread := hi .none _ (endsNumber_items items i.after inner rest)
    have hlater := ih hitems false i.after fuel (Nat.lt_of_succ_lt_succ hf)
    rw [Tree.itemsText, Json.items, nextItem_gap]
    simp only [List.append_assoc]
    rw [ht, List.cons_append, nextItem_item first i.before hgap hclose, ← List.cons_append, ← ht]
    simp only [ok_bind, if_true, verdict_bind]
    rw [show i.token.text ++ _ = Gap.none.chars ++ (i.token.text ++ _) from rfl, hread,
      List.mapM_cons]
    cases den i.token with
    | error cause => rfl
    | ok v =>
      simp only [ok_bind, Except.map]
      rw [hlater]
      cases items.mapM fun i => den i.token <;> rfl

theorem members_text (members : List Member)
    (h : ∀ m ∈ members, Reads reader m.2.token (den m.2.token)) (first : Bool) (g inner : Gap)
    (rest : List Char) (fuel : Nat) (hf : members.length < fuel) :
    verdict (Json.members reader fuel first
        (g.chars ++ (Tree.membersText first members ++ (inner.chars ++ '\x7d' :: rest)))) =
      (members.mapM (Tree.readMember den)).map (·, rest) := by
  induction members generalizing first g fuel with
  | nil =>
    obtain ⟨fuel, rfl⟩ := Nat.exists_eq_add_one.mpr hf
    rw [Tree.membersText, List.nil_append, Json.members, nextMember_gap, nextMember_gap,
      nextMember_close]
    simp only [ok_bind, Bool.false_eq_true, if_false, closeObject_text]
    rfl
  | cons m members ih =>
    obtain ⟨fuel, rfl⟩ := Nat.exists_eq_add_one.mpr (Nat.zero_lt_of_lt hf)
    obtain ⟨hm, hmembers⟩ := List.forall_mem_cons.mp h
    have hread := hm m.2.before _ (endsNumber_members members m.2.after inner rest)
    have hlater := ih hmembers false m.2.after fuel (Nat.lt_of_succ_lt_succ hf)
    rw [Tree.membersText, Json.members, nextMember_gap]
    simp only [List.append_assoc, List.cons_append]
    rw [nextMember_member first m.1.before]
    simp only [ok_bind, if_true, verdict_bind]
    rw [string_text, List.mapM_cons, Tree.readMember]
    cases Letter.read m.1.token with
    | error cause => rfl
    | ok k =>
      simp only [ok_bind, Except.map]
      rw [colon_text, verdict_ok, ok_bind, hread]
      cases den m.2.token with
      | error cause => rfl
      | ok v =>
        simp only [ok_bind, Except.map]
        rw [hlater]
        cases members.mapM (Tree.readMember den) <;> rfl

end

/-! ## Values -/

theorem scalar?_number (n : Numeral) (s : List Char) :
    scalar? (n.text ++ s) = some (number n.negative (n.unsigned ++ s)) := by
  cases hn : n.negative with
  | true =>
    rw [Numeral.text, hn]
    rfl
  | false =>
    obtain ⟨d, ds, hd⟩ := List.exists_cons_of_ne_nil n.whole_ne_nil
    have hdigit : Text.isDigit d = true := n.isWhole d (by simp [hd])
    obtain ⟨_, hnull, htrue, hfalse, hminus, _⟩ := isDigit_cases hdigit
    rw [Numeral.text, hn, if_neg (by decide), Numeral.unsigned, hd]
    simp [scalar?, hnull, htrue, hfalse, hminus, hdigit]

theorem value_gap (room : Nat) (g : Gap) (s : List Char) :
    value room (g.chars ++ s) = value room s := by
  rw [value, value, skipGaps_append]

theorem skipGaps_text (t : Tree) (rest : List Char) :
    skipGaps (t.text ++ rest) = t.text ++ rest := by
  obtain ⟨c, s, ht, hgap, _⟩ := t.text_head
  rw [ht, List.cons_append, skipGaps_cons hgap]

theorem value_of_scalar {t : Tree} {rest : List Char} {r : Except Stop (Json × List Char)}
    (h : scalar? (t.text ++ rest) = some r) (room : Nat) : value room (t.text ++ rest) = r := by
  rw [value, skipGaps_text, h]

theorem value_array (room : Nat) (s : List Char) :
    value (room + 1) ('[' :: s) =
      (items (value room) (s.length + 1) true s).map fun r => (.arr r.1, r.2) := by
  rw [value, skipGaps_cons (by decide)]
  rfl

theorem value_object (room : Nat) (s : List Char) :
    value (room + 1) ('\x7b' :: s) =
      (members (value room) (s.length + 1) true s).map fun r => (ofMembers r.1, r.2) := by
  rw [value, skipGaps_cons (by decide)]
  rfl

theorem scalar?_string (letters : List Letter) (rest : List Char) :
    scalar? ((Tree.string letters).text ++ rest) =
      some ((string (letters.flatMap Letter.text ++ '\x22' :: rest)).map
        fun r => (.str r.1, r.2)) := by
  rw [Tree.text, List.append_assoc]
  rfl

/-- A reader of values makes of a text what the text says. -/
theorem value_text (t : Tree) (room : Nat) : Reads (value room) t (t.read room) := by
  intro g rest hrest
  rw [value_gap]
  induction t generalizing room g rest with
  | null =>
    rw [value_of_scalar rfl]
    rfl
  | bool b =>
    cases b with
    | true =>
      rw [value_of_scalar rfl]
      rfl
    | false =>
      rw [value_of_scalar rfl]
      rfl
  | number n =>
    have hs : scalar? ((Tree.number n).text ++ rest) = _ := scalar?_number n rest
    rw [value_of_scalar hs, number_text n hrest]
    rfl
  | string letters =>
    rw [value_of_scalar (scalar?_string letters rest), verdict_map, string_text, Tree.read]
    cases Letter.read letters <;> rfl
  | array items inner ih =>
    rw [Tree.text]
    simp only [List.cons_append, List.append_assoc, List.nil_append]
    cases room with
    | zero =>
      rw [value, skipGaps_cons (by decide)]
      rfl
    | succ room =>
      have hitems : ∀ i ∈ items, Reads (value room) i.token (i.token.read room) := by
        intro i hi g rest hrest
        rw [value_gap]
        exact ih i hi room g rest hrest
      have hlength := Tree.length_le_itemsText true items
      have hloop := items_text (fun t => t.read room) items hitems true .none inner rest
        ((Tree.itemsText true items ++ (inner.chars ++ ']' :: rest)).length + 1)
        (by rw [List.length_append]; omega)
      rw [value_array, verdict_map, Tree.read, Tree.readItems_eq]
      rw [show Gap.none.chars ++ _ = _ from List.nil_append _] at hloop
      rw [hloop]
      cases items.mapM fun i => i.token.read room <;> rfl
  | object members inner ih =>
    rw [Tree.text]
    simp only [List.cons_append, List.append_assoc, List.nil_append]
    cases room with
    | zero =>
      rw [value, skipGaps_cons (by decide)]
      rfl
    | succ room =>
      have hmembers : ∀ m ∈ members, Reads (value room) m.2.token (m.2.token.read room) := by
        intro m hm g rest hrest
        rw [value_gap]
        exact ih m hm room g rest hrest
      have hlength := Tree.length_le_membersText true members
      have hloop := members_text (fun t => t.read room) members hmembers true .none inner
        rest ((Tree.membersText true members ++ (inner.chars ++ '\x7d' :: rest)).length + 1)
        (by rw [List.length_append]; omega)
      rw [value_object, verdict_map, Tree.read, Tree.readMembers_eq]
      rw [show Gap.none.chars ++ _ = _ from List.nil_append _] at hloop
      rw [hloop]
      cases members.mapM (Tree.readMember fun t => t.read room) <;> rfl

/-! ## Skipping -/

theorem skipKey_text (g : Gap) (letters : List Letter) (after : Gap) (s : List Char) :
    skipKey (g.chars ++ '\x22' :: (letters.flatMap Letter.text ++ '\x22' ::
      (after.chars ++ ':' :: s))) = .ok s := by
  rw [skipKey, skipGaps_append, skipGaps_cons (by decide)]
  simp only [if_true, skipString_text, ok_bind, colon_text]

section
variable {skip : List Char → Except Stop (List Char)}

theorem skipItems_text (items : List (Spaced Tree))
    (h : ∀ i ∈ items, ∀ (g : Gap) (rest : List Char), EndsNumber rest →
      skip (g.chars ++ (i.token.text ++ rest)) = .ok rest)
    (first : Bool) (g inner : Gap) (rest : List Char) (fuel : Nat) (hf : items.length < fuel) :
    skipItems skip fuel first
      (g.chars ++ (Tree.itemsText first items ++ (inner.chars ++ ']' :: rest))) = .ok rest := by
  induction items generalizing first g fuel with
  | nil =>
    obtain ⟨fuel, rfl⟩ := Nat.exists_eq_add_one.mpr hf
    rw [Tree.itemsText, List.nil_append, skipItems, skipGaps_append, skipGaps_append,
      skipGaps_cons (by decide)]
    rfl
  | cons i items ih =>
    obtain ⟨fuel, rfl⟩ := Nat.exists_eq_add_one.mpr (Nat.zero_lt_of_lt hf)
    obtain ⟨hi, hitems⟩ := List.forall_mem_cons.mp h
    have hends := endsNumber_items items i.after inner rest
    have hlater := ih hitems false i.after fuel (Nat.lt_of_succ_lt_succ hf)
    rw [Tree.itemsText, skipItems, skipGaps_append]
    simp only [List.append_assoc]
    cases first with
    | true =>
      obtain ⟨c, s, ht, hgap, _, hclose, _⟩ := i.token.text_head
      have hnow := hi .none _ hends
      rw [if_pos rfl, List.nil_append, skipGaps_append, skipGaps_text]
      rw [ht, List.cons_append]
      simp only [hclose, if_false, if_true]
      rw [← List.cons_append, ← ht]
      rw [show i.token.text ++ _ = Gap.none.chars ++ (i.token.text ++ _) from rfl, hnow]
      exact hlater
    | false =>
      have hnow := hi i.before _ hends
      rw [if_neg (by decide), List.singleton_append, skipGaps_cons (by decide)]
      simp only [Bool.false_eq_true, if_false, if_true, show (',' = ']') = False by simp]
      rw [hnow]
      exact hlater

theorem skipMembers_text (members : List Member)
    (h : ∀ m ∈ members, ∀ (g : Gap) (rest : List Char), EndsNumber rest →
      skip (g.chars ++ (m.2.token.text ++ rest)) = .ok rest)
    (first : Bool) (g inner : Gap) (rest : List Char) (fuel : Nat) (hf : members.length < fuel) :
    skipMembers skip fuel first
      (g.chars ++ (Tree.membersText first members ++ (inner.chars ++ '\x7d' :: rest))) =
        .ok rest := by
  induction members generalizing first g fuel with
  | nil =>
    obtain ⟨fuel, rfl⟩ := Nat.exists_eq_add_one.mpr hf
    rw [Tree.membersText, List.nil_append, skipMembers, skipGaps_append, skipGaps_append,
      skipGaps_cons (by decide)]
    rfl
  | cons m members ih =>
    obtain ⟨fuel, rfl⟩ := Nat.exists_eq_add_one.mpr (Nat.zero_lt_of_lt hf)
    obtain ⟨hm, hmembers⟩ := List.forall_mem_cons.mp h
    have hends := endsNumber_members members m.2.after inner rest
    have hlater := ih hmembers false m.2.after fuel (Nat.lt_of_succ_lt_succ hf)
    have hnow := hm m.2.before _ hends
    rw [Tree.membersText, skipMembers, skipGaps_append]
    simp only [List.append_assoc, List.cons_append]
    cases first with
    | true =>
      rw [if_pos rfl, List.nil_append, skipGaps_append, skipGaps_cons (by decide)]
      simp only [if_true, if_false, show ('\x22' = '\x7d') = False by simp]
      rw [show '\x22' :: _ = Gap.none.chars ++ '\x22' :: _ from rfl, skipKey_text, ok_bind, hnow]
      exact hlater
    | false =>
      rw [if_neg (by decide), List.singleton_append, skipGaps_cons (by decide)]
      simp only [Bool.false_eq_true, if_false, if_true, show (',' = '\x7d') = False by simp]
      rw [skipKey_text, ok_bind, hnow]
      exact hlater

end

theorem skipValueFrom_of_scalar {t : Tree} {rest : List Char} {r : Except Stop (List Char)}
    (h : skipScalar? (t.text ++ rest) = some r) (g : Gap) (fuel : Nat) :
    skipValueFrom (fuel + 1) (g.chars ++ (t.text ++ rest)) = r := by
  rw [skipValueFrom, skipGaps_append, skipGaps_text, h]

theorem skipScalar?_number (n : Numeral) (s : List Char) :
    skipScalar? (n.text ++ s) = some (skipNumber (n.unsigned ++ s)) := by
  cases hn : n.negative with
  | true =>
    rw [Numeral.text, hn]
    rfl
  | false =>
    obtain ⟨d, ds, hd⟩ := List.exists_cons_of_ne_nil n.whole_ne_nil
    have hdigit : Text.isDigit d = true := n.isWhole d (by simp [hd])
    obtain ⟨_, hnull, htrue, hfalse, hminus, _⟩ := isDigit_cases hdigit
    rw [Numeral.text, hn, if_neg (by decide), Numeral.unsigned, hd]
    simp [skipScalar?, hnull, htrue, hfalse, hminus, hdigit]

theorem Tree.length_text_le_items {items : List (Spaced Tree)} {i : Spaced Tree} (hi : i ∈ items)
    (first : Bool) : i.token.text.length ≤ (itemsText first items).length := by
  induction items generalizing first with
  | nil => cases hi
  | cons j items ih =>
    rw [itemsText]
    simp only [List.length_append]
    rcases List.mem_cons.mp hi with rfl | hi
    · omega
    · have h := ih hi false
      omega

theorem Tree.length_text_le_members {members : List Member}
    {m : Member} (hm : m ∈ members) (first : Bool) :
    m.2.token.text.length ≤ (membersText first members).length := by
  induction members generalizing first with
  | nil => cases hm
  | cons n members ih =>
    obtain ⟨key, v⟩ := n
    rw [membersText]
    simp only [List.length_append, List.length_cons]
    rcases List.mem_cons.mp hm with rfl | hm
    · dsimp only
      omega
    · have h := ih hm false
      omega

/-- A value is passed over whatever it says and however deep it nests. -/
theorem skipValueFrom_text (t : Tree) (fuel : Nat) (hf : t.text.length < fuel) (g : Gap)
    (rest : List Char) (hrest : EndsNumber rest) :
    skipValueFrom fuel (g.chars ++ (t.text ++ rest)) = .ok rest := by
  induction t generalizing fuel g rest with
  | null =>
    obtain ⟨fuel, rfl⟩ := Nat.exists_eq_add_one.mpr (Nat.zero_lt_of_lt hf)
    exact skipValueFrom_of_scalar rfl g fuel
  | bool b =>
    obtain ⟨fuel, rfl⟩ := Nat.exists_eq_add_one.mpr (Nat.zero_lt_of_lt hf)
    cases b with
    | true => exact skipValueFrom_of_scalar rfl g fuel
    | false => exact skipValueFrom_of_scalar rfl g fuel
  | number n =>
    obtain ⟨fuel, rfl⟩ := Nat.exists_eq_add_one.mpr (Nat.zero_lt_of_lt hf)
    have hs : skipScalar? ((Tree.number n).text ++ rest) = _ := skipScalar?_number n rest
    rw [skipValueFrom_of_scalar hs, skipNumber_text n hrest]
  | string letters =>
    obtain ⟨fuel, rfl⟩ := Nat.exists_eq_add_one.mpr (Nat.zero_lt_of_lt hf)
    have hs : skipScalar? ((Tree.string letters).text ++ rest) =
        some (skipString (letters.flatMap Letter.text ++ '\x22' :: rest)) := by
      rw [Tree.text, List.append_assoc]
      rfl
    rw [skipValueFrom_of_scalar hs, skipString_text]
  | array items inner ih =>
    obtain ⟨fuel, rfl⟩ := Nat.exists_eq_add_one.mpr (Nat.zero_lt_of_lt hf)
    have hlength := Tree.length_le_itemsText true items
    rw [Tree.text] at hf ⊢
    simp only [List.length_cons, List.length_append] at hf
    have hloop : ∀ i ∈ items, ∀ (g : Gap) (rest : List Char), EndsNumber rest →
        skipValueFrom fuel (g.chars ++ (i.token.text ++ rest)) = .ok rest := by
      intro i hi
      have hshort := Tree.length_text_le_items hi true
      exact ih i hi fuel (by omega)
    rw [skipValueFrom, skipGaps_append]
    simp only [List.cons_append, List.append_assoc, List.nil_append]
    rw [skipGaps_cons (by decide)]
    exact skipItems_text items hloop true .none inner rest fuel (by omega)
  | object members inner ih =>
    obtain ⟨fuel, rfl⟩ := Nat.exists_eq_add_one.mpr (Nat.zero_lt_of_lt hf)
    have hlength := Tree.length_le_membersText true members
    rw [Tree.text] at hf ⊢
    simp only [List.length_cons, List.length_append] at hf
    have hloop : ∀ m ∈ members, ∀ (g : Gap) (rest : List Char), EndsNumber rest →
        skipValueFrom fuel (g.chars ++ (m.2.token.text ++ rest)) = .ok rest := by
      intro m hm
      have hshort := Tree.length_text_le_members hm true
      exact ih m hm fuel (by omega)
    rw [skipValueFrom, skipGaps_append]
    simp only [List.cons_append, List.append_assoc, List.nil_append]
    rw [skipGaps_cons (by decide)]
    exact skipMembers_text members hloop true .none inner rest fuel (by omega)

theorem skipValue_text (t : Tree) (g : Gap) {rest : List Char} (hrest : EndsNumber rest) :
    skipValue (g.chars ++ (t.text ++ rest)) = .ok rest := by
  apply skipValueFrom_text t _ _ g rest hrest
  simp only [List.length_append]
  omega

end SmokeProbe.Json
