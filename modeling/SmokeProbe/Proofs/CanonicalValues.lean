import SmokeProbe.Proofs.DoubleNumerals
import SmokeProbe.Proofs.JsonRewriting

/-!
# The texts of values in canonical form

Whatever a text says is a value whose objects keep their members in the order of the keys, and every
such value is printed without blanks, with the keys of each object in that order, and without
control characters.
-/
namespace SmokeProbe

theorem Text.isHexDigit_of_hexadecimal? {s : List Char} {n : Nat} (h : hexadecimal? s = some n) :
    ∀ c ∈ s, isHexDigit c = true := by
  intro c hc
  unfold hexadecimal? number? at h
  split at h
  · cases h
  · obtain ⟨ds, hds, _⟩ := Option.map_eq_some_iff.mp h
    obtain ⟨d, _, hd⟩ := exists_of_mem_mapM hds hc
    rw [isHexDigit, hd]
    rfl

namespace Json

/-- A value in which every object keeps its members in the order of their keys, each key once. -/
inductive Ordered : Json → Prop
  | null : Ordered .null
  | bool (b : Bool) : Ordered (.bool b)
  | int (n : Int) : Ordered (.int n)
  | double (x : Decimal.Double) : Ordered (.double x)
  | str (s : String) : Ordered (.str s)
  | arr (items : List Json) : (∀ v ∈ items, Ordered v) → Ordered (.arr items)
  | obj (members : List (String × Json)) :
      members.Pairwise (fun m n => keyBefore m.1 n.1 = true) → (∀ m ∈ members, Ordered m.2) →
      Ordered (.obj members)

/-! ## What is read -/

section
variable {negative : Bool} {s rest : List Char} {v : Json}

theorem assemble_ordered {significand : Nat} {exponent : Int}
    (h : assemble negative significand exponent s = .ok (v, rest)) : v.Ordered := by
  unfold assemble at h
  split at h
  · cases h
    exact .double _
  · cases h

theorem exponentPart_ordered {significand : Nat} {start : Int}
    (h : exponentPart negative significand start s = .ok (v, rest)) : v.Ordered := by
  unfold exponentPart at h
  split at h
  split at h
  · cases h
  · simp only at h
    split at h
    · split at h
      · exact assemble_ordered h
      · split at h
        · cases h
        · exact assemble_ordered h
    · cases h

theorem numberTail_ordered {significand start : Nat}
    (h : numberTail negative significand start s = .ok (v, rest)) : v.Ordered := by
  have hwhole : ∀ s, numberTail.whole negative significand start s = .ok (v, rest) →
      v.Ordered := by
    intro s h
    unfold numberTail.whole at h
    split_ifs at h
    · exact assemble_ordered h
    · exact assemble_ordered h
    · cases h
      exact .int _
    · cases h
      exact .int _
  unfold numberTail at h
  split at h
  · simp only at h
    split at h
    · split at h <;> cases h
    · split at h
      · split at h
        · exact exponentPart_ordered h
        · exact assemble_ordered h
      · exact assemble_ordered h
  · split at h
    · exact exponentPart_ordered h
    · exact hwhole _ h
  · exact hwhole _ h

theorem number_ordered (h : number negative s = .ok (v, rest)) : v.Ordered := by
  unfold number at h
  split at h
  · cases h
  · split_ifs at h
    · cases h
    · exact numberTail_ordered h
    · exact numberTail_ordered h
    · cases h

end

/-- Whatever a text says has its members in order. -/
theorem Tree.read_ordered {t : Tree} {room : Nat} {v : Json} (h : t.read room = .ok v) :
    v.Ordered := by
  induction t generalizing room v with
  | null =>
    cases h
    exact .null
  | bool b =>
    cases h
    exact .bool b
  | number n =>
    rw [read, Numeral.read] at h
    obtain ⟨r, hr, rfl⟩ := map_eq_ok.mp h
    exact number_ordered (verdict_eq_ok.mp hr)
  | string letters =>
    obtain ⟨s, -, rfl⟩ := map_eq_ok.mp h
    exact .str _
  | array items inner ih =>
    cases room with
    | zero => cases h
    | succ room =>
      obtain ⟨vs, hvs, rfl⟩ := map_eq_ok.mp h
      refine .arr vs fun v hv => ?_
      obtain ⟨i, hi, hread⟩ := exists_of_mem_right (readItems_eq_ok.mp hvs) hv
      exact ih i hi hread
  | object members inner ih =>
    cases room with
    | zero => cases h
    | succ room =>
      obtain ⟨kvs, hkvs, rfl⟩ := map_eq_ok.mp h
      obtain ⟨kept, hkept, hascending, hmem⟩ := exists_ofMembers kvs
      rw [hkept]
      refine .obj kept hascending fun kv hkv => ?_
      obtain ⟨m, hm, hsays⟩ := exists_of_mem_right (readMembers_eq_ok.mp hkvs) (hmem kv hkv)
      exact ih m hm hsays.2

/-! ## What is printed -/

namespace Tree

/-- A text in which the keys of every object ascend. -/
inductive Ascending : Tree → Prop
  | null : Ascending null
  | bool (b : Bool) : Ascending (bool b)
  | number (n : Numeral) : Ascending (number n)
  | string (letters : List Letter) : Ascending (string letters)
  | array (items : List (Spaced Tree)) (inner : Gap) : (∀ i ∈ items, Ascending i.token) →
      Ascending (array items inner)
  | object (members : List Member) (inner : Gap) (keys : List String) :
      members.map key? = keys.map some →
      keys.Pairwise (fun k l => keyBefore k l = true) → (∀ m ∈ members, Ascending m.2.token) →
      Ascending (object members inner)

end Tree

/-- A syntax tree is the canonical form of a value: it has the text of the value, without blanks and
with the keys of every object in order. -/
structure Canonical (t : Tree) (v : Json) : Prop where
  text : t.text = v.print
  bare : t.bare = t
  ascending : t.Ascending

def CanonicalItem (i : Spaced Tree) (v : Json) : Prop := ∃ t, i = .compact t ∧ Canonical t v

def CanonicalMember (m : Member) (kv : String × Json) : Prop :=
  ∃ letters t, m = (.compact letters, .compact t) ∧ SpellsText letters kv.1.toList ∧
    Canonical t kv.2

theorem exists_canonicalMember {kv : String × Json} (h : ∃ t, Canonical t kv.2) :
    ∃ m, CanonicalMember m kv := by
  obtain ⟨letters, hletters⟩ := exists_letters kv.1.toList
  obtain ⟨t, ht⟩ := h
  exact ⟨_, letters, t, rfl, hletters, ht⟩

theorem canonical_array {its : List (Spaced Tree)} {items : List Json}
    (h : List.Forall₂ CanonicalItem its items) : Canonical (.array its .none) (.arr items) where
  text := array_text (h.imp fun _ _ ⟨t, hi, ht⟩ => ⟨t, hi, ht.text⟩)
  bare := by
    have hsame : ∀ i ∈ its, Spaced.compact i.token.bare = i := by
      intro i hi
      obtain ⟨v, -, t, rfl, ht⟩ := exists_of_mem_left h hi
      exact congrArg Spaced.compact ht.bare
    rw [Tree.bare, Tree.bareItems_eq, (List.map_congr_left hsame).trans (List.map_id _)]
  ascending := by
    refine .array its .none fun i hi => ?_
    obtain ⟨v, -, t, rfl, ht⟩ := exists_of_mem_left h hi
    exact ht.ascending

section
variable {ms : List Member} {kvs : List (String × Json)}
  (h : List.Forall₂ CanonicalMember ms kvs)
include h

theorem canonicalMembers_prints : List.Forall₂ PrintsMember ms kvs :=
  h.imp fun _ _ ⟨letters, t, hm, hkey, ht⟩ => ⟨letters, t, hm, hkey, ht.text⟩

theorem canonicalMembers_bare : (Tree.object ms .none).bare = .object ms .none := by
  have hsame : ∀ m ∈ ms, (Spaced.compact m.1.token, Spaced.compact m.2.token.bare) = m := by
    intro m hm
    obtain ⟨kv, -, letters, t, rfl, -, ht⟩ := exists_of_mem_left h hm
    exact congrArg (fun u => (Spaced.compact letters, Spaced.compact u)) ht.bare
  rw [Tree.bare, Tree.bareMembers_eq, (List.map_congr_left hsame).trans (List.map_id _)]

theorem canonicalMembers_keys : ms.map Tree.key? = (kvs.map Prod.fst).map some := by
  rw [List.map_map, ← List.forall₂_eq_eq_eq, List.forall₂_map_left_iff, List.forall₂_map_right_iff]
  exact (canonicalMembers_prints h).imp fun _ _ hm => hm.key

theorem canonicalMembers_ascending : ∀ m ∈ ms, m.2.token.Ascending := by
  intro m hm
  obtain ⟨kv, -, letters, t, rfl, -, ht⟩ := exists_of_mem_left h hm
  exact ht.ascending

theorem canonical_object (hsorted : kvs.Pairwise fun m n => keyBefore m.1 n.1 = true) :
    Canonical (.object ms .none) (.obj kvs) where
  text := object_text (canonicalMembers_prints h)
  bare := canonicalMembers_bare h
  ascending := .object ms .none (kvs.map Prod.fst) (canonicalMembers_keys h)
    (List.pairwise_map.mpr hsorted) (canonicalMembers_ascending h)

end

/-- Every value with its members in order is printed in canonical form. -/
theorem Ordered.exists_canonical {v : Json} (h : v.Ordered) : ∃ t, Canonical t v := by
  induction h with
  | null => exact ⟨.null, rfl, rfl, .null⟩
  | bool b =>
    refine ⟨.bool b, ?_, rfl, .bool b⟩
    cases b <;> rfl
  | int n => exact ⟨.number (.ofInteger n), Numeral.ofInteger_text n, rfl, .number _⟩
  | double x =>
    obtain ⟨n, hn⟩ := layout.exists_numeral x
    exact ⟨.number n, hn, rfl, .number n⟩
  | str s =>
    obtain ⟨letters, hletters⟩ := exists_letters s.toList
    exact ⟨.string letters, (spells_string hletters).text, rfl, .string letters⟩
  | arr items _ ih =>
    obtain ⟨its, hits⟩ := exists_forall₂ (R := CanonicalItem) fun v hv =>
      (ih v hv).elim fun t ht => ⟨.compact t, t, rfl, ht⟩
    exact ⟨_, canonical_array hits⟩
  | obj members hsorted _ ih =>
    obtain ⟨ms, hms⟩ := exists_forall₂ (R := CanonicalMember) fun kv hkv =>
      exists_canonicalMember (ih kv hkv)
    exact ⟨_, canonical_object hms hsorted⟩

/-! ## Control characters -/

/-- Characters that are not control characters. -/
def Printable (s : List Char) : Prop := ∀ c ∈ s, 0x20 ≤ c.toNat

@[simp] theorem printable_nil : Printable [] := List.forall_mem_nil _

@[simp] theorem printable_append {s t : List Char} :
    Printable (s ++ t) ↔ Printable s ∧ Printable t := List.forall_mem_append

@[simp] theorem printable_cons {c : Char} {s : List Char} :
    Printable (c :: s) ↔ 0x20 ≤ c.toNat ∧ Printable s := List.forall_mem_cons

/-- No control character is in a class of characters if none of their codes is. -/
theorem printable_of_class {p : Char → Bool} (hp : ∀ n < 0x20, p (Char.ofNat n) = false)
    {s : List Char} (h : ∀ c ∈ s, p c = true) : Printable s := by
  intro c hc
  by_contra hcontrol
  have hnone : p c = false :=
    Text.forall_of_codes (b := 0x20) (P := fun c => p c = false) hp (Nat.not_le.mp hcontrol)
  cases hnone.symm.trans (h c hc)

theorem printable_digits {s : List Char} (h : ∀ c ∈ s, Text.isDigit c = true) : Printable s :=
  printable_of_class (by decide) h

theorem printable_hexDigits {s : List Char} {n : Nat} (h : Text.hexadecimal? s = some n) :
    Printable s :=
  printable_of_class (p := Text.isHexDigit) (by decide) (Text.isHexDigit_of_hexadecimal? h)

theorem Letter.text_printable (l : Letter) : Printable l.text := by
  cases l with
  | plain c quoted => simp [text, quoted.1]
  | escaped letter c known =>
    have hknown : ∀ p ∈ abbreviations, 0x20 ≤ p.1.toNat := by decide
    simp [text, hknown _ known]
  | numbered x y z w n digits => simpa [text] using printable_hexDigits digits

theorem letters_printable (letters : List Letter) : Printable (letters.flatMap Letter.text) := by
  intro c hc
  obtain ⟨l, -, hl⟩ := List.mem_flatMap.mp hc
  exact l.text_printable c hl

theorem Exponent.text_printable (e : Exponent) : Printable e.text := by
  have hletter := e.isLetter
  have hsign := e.isSign
  simp only [isExponentLetter, Bool.or_eq_true, beq_iff_eq] at hletter
  simp only [List.mem_cons, List.not_mem_nil, or_false] at hsign
  rcases hletter with hl | hl <;> rcases hsign with hs | hs | hs <;>
    simp [text, hl, hs, printable_digits e.isDigits]

theorem Numeral.text_printable (n : Numeral) : Printable n.text := by
  have hexponent : Printable n.exponentText := by
    cases he : n.exponent with
    | none => simp [n.exponentText_none he]
    | some e => simpa [n.exponentText_some he] using e.text_printable
  have htail : Printable n.tail := by
    cases hf : n.fraction with
    | none => rwa [n.tail_none hf]
    | some ds => simp [n.tail_some hf, printable_digits (n.isFraction ds hf), hexponent]
  cases hn : n.negative <;> simp [text, hn, unsigned, printable_digits n.isWhole, htail]

namespace Tree

theorem bareItems_printable {items : List (Spaced Tree)}
    (h : ∀ i ∈ items, Printable i.token.bare.text) (first : Bool) :
    Printable (itemsText first (bareItems items)) := by
  induction items generalizing first with
  | nil => simp [bareItems, itemsText]
  | cons i items ih =>
    obtain ⟨hi, hitems⟩ := List.forall_mem_cons.mp h
    cases first <;> simp [bareItems, itemsText, Gap.none, hi, ih hitems]

theorem bareMembers_printable {members : List Member}
    (h : ∀ m ∈ members, Printable m.2.token.bare.text) (first : Bool) :
    Printable (membersText first (bareMembers members)) := by
  induction members generalizing first with
  | nil => simp [bareMembers, membersText]
  | cons m members ih =>
    obtain ⟨hm, hmembers⟩ := List.forall_mem_cons.mp h
    cases first <;>
      simp [bareMembers, membersText, Gap.none, letters_printable, hm, ih hmembers]

/-- Without blanks there are no control characters in a text. -/
theorem bare_printable (t : Tree) : Printable t.bare.text := by
  induction t with
  | null => simp [bare, text]
  | bool b => cases b <;> simp [bare, text]
  | number n => exact n.text_printable
  | string letters => simp [bare, text, letters_printable]
  | array items inner ih => simp [bare, text, Gap.none, bareItems_printable ih]
  | object members inner ih => simp [bare, text, Gap.none, bareMembers_printable ih]

end Tree

end Json

end SmokeProbe
