import Mathlib.Algebra.Group.Int.Defs
import Mathlib.Data.List.Forall2
import SmokeProbe.Proofs.DecimalText
import SmokeProbe.Proofs.RecordReading

/-!
# Printed values

The compact text of a value without doubles is a JSON text, and what that text says is the value
itself, to every reader that enters as many arrays and objects as the value nests. To any other
reader it is nested too deeply. So no two values have one text.
-/
namespace SmokeProbe.Json

/-- A value without doubles. Integers have at most 64 bits, and an object keeps its members in the
order of their keys, each key once. -/
inductive Exact : Json → Prop
  | null : Exact .null
  | bool (b : Bool) : Exact (.bool b)
  | int (n : Int) : -2 ^ 63 ≤ n → n < 2 ^ 64 → Exact (.int n)
  | str (s : String) : Exact (.str s)
  | arr (items : List Json) : (∀ v ∈ items, Exact v) → Exact (.arr items)
  | obj (members : List (String × Json)) :
      members.Pairwise (fun m n => keyBefore m.1 n.1 = true) → (∀ m ∈ members, Exact m.2) →
      Exact (.obj members)

mutual

/-- How many arrays and objects nest in a value. -/
def depth : Json → Nat
  | .arr items => depthItems items + 1
  | .obj members => depthMembers members + 1
  | _ => 0

def depthItems : List Json → Nat
  | [] => 0
  | v :: vs => max (depth v) (depthItems vs)

def depthMembers : List (String × Json) → Nat
  | [] => 0
  | (_, v) :: ms => max (depth v) (depthMembers ms)

end

/-- A syntax tree spells a value: its text is that of the value, and it says the value. -/
structure Spells (t : Tree) (v : Json) : Prop where
  text : t.text = v.print
  read : ∀ room, t.read room = if v.depth ≤ room then .ok v else .error .nestedTooDeeply

/-! ## Strings -/

theorem hexadecimal?_control : ∀ n < 0x20,
    Text.hexadecimal? ['0', '0', Text.lowerHexDigit (n / 16), Text.lowerHexDigit (n % 16)] =
      some n := by
  decide

theorem exists_letter (c : Char) :
    ∃ l : Letter, l.text = escapeChar c ∧
      ∀ ls, Letter.read (l :: ls) = (Letter.read ls).map (c :: ·) := by
  have hshort : ∀ letter, (letter, c) ∈ abbreviations → escapeChar c = ['\x5c', letter] →
      ∃ l : Letter, l.text = escapeChar c ∧
        ∀ ls, Letter.read (l :: ls) = (Letter.read ls).map (c :: ·) :=
    fun letter h htext => ⟨.escaped letter c h, htext.symm, fun ls => by rw [Letter.read]⟩
  have hcode : ∀ n, c.toNat = n → c = Char.ofNat n := fun n hn => by rw [← hn, Char.ofNat_toNat]
  by_cases hquote : c = '\x22'
  · exact hshort '\x22' (by rw [hquote]; decide) (by rw [hquote]; rfl)
  by_cases hslash : c = '\x5c'
  · exact hshort '\x5c' (by rw [hslash]; decide) (by rw [hslash]; rfl)
  by_cases hplain : 0x20 ≤ c.toNat
  · refine ⟨.plain c ⟨hplain, hquote, hslash⟩, ?_, fun ls => by rw [Letter.read]⟩
    rw [escapeChar, if_neg hquote, if_neg hslash, if_pos hplain]
    rfl
  by_cases hb : c.toNat = 0x08
  · exact hshort 'b' (by rw [hcode _ hb]; decide) (by rw [hcode _ hb]; rfl)
  by_cases ht : c.toNat = 0x09
  · exact hshort 't' (by rw [hcode _ ht]; decide) (by rw [hcode _ ht]; rfl)
  by_cases hn : c.toNat = 0x0a
  · exact hshort 'n' (by rw [hcode _ hn]; decide) (by rw [hcode _ hn]; rfl)
  by_cases hf : c.toNat = 0x0c
  · exact hshort 'f' (by rw [hcode _ hf]; decide) (by rw [hcode _ hf]; rfl)
  by_cases hr : c.toNat = 0x0d
  · exact hshort 'r' (by rw [hcode _ hr]; decide) (by rw [hcode _ hr]; rfl)
  have hcontrol : c.toNat < 0x20 := Nat.not_le.mp hplain
  refine ⟨.numbered _ _ _ _ c.toNat (hexadecimal?_control _ hcontrol), ?_, fun ls => ?_⟩
  · rw [escapeChar, if_neg hquote, if_neg hslash, if_neg hplain, if_neg hb, if_neg ht, if_neg hn,
      if_neg hf, if_neg hr]
    rfl
  · have htrailing : isTrailingSurrogate c.toNat = false := by
      rw [isTrailingSurrogate, decide_eq_false (by omega), Bool.false_and]
    have hleading : isLeadingSurrogate c.toNat = false := by
      rw [isLeadingSurrogate, decide_eq_false (by omega), Bool.false_and]
    rw [Letter.read.eq_def]
    simp [htrailing, hleading, Char.ofNat_toNat]

/-- Letters that spell characters. -/
def SpellsText (letters : List Letter) (s : List Char) : Prop :=
  letters.flatMap Letter.text = s.flatMap escapeChar ∧ Letter.read letters = .ok s

theorem exists_letters (s : List Char) : ∃ letters, SpellsText letters s := by
  induction s with
  | nil => exact ⟨[], rfl, rfl⟩
  | cons c s ih =>
    obtain ⟨letters, htext, hread⟩ := ih
    obtain ⟨l, hl, hlread⟩ := exists_letter c
    exact ⟨l :: letters, by rw [List.flatMap_cons, List.flatMap_cons, hl, htext],
      by rw [hlread, hread]; rfl⟩

theorem spells_string {letters : List Letter} {s : String} (h : SpellsText letters s.toList) :
    Spells (.string letters) (.str s) where
  text := by rw [Tree.text, h.1]; rfl
  read room := by simp [Tree.read, h.2, depth, Except.map]

/-! ## Integers -/

theorem le_ofDigitChars (s : List Char) (n : Nat) : n ≤ Nat.ofDigitChars 10 s n := by
  induction s generalizing n with
  | nil => exact Nat.le_refl n
  | cons c s ih =>
    rw [Nat.ofDigitChars_cons]
    exact Nat.le_trans (by omega) (ih _)

theorem accumulate_eq {bound : Nat} {s : List Char} (hs : ∀ c ∈ s, Text.isDigit c = true)
    {n : Nat} (hbound : Nat.ofDigitChars 10 s n ≤ bound) :
    accumulate bound n s = (Nat.ofDigitChars 10 s n, 0) := by
  induction s generalizing n with
  | nil => rfl
  | cons c s ih =>
    obtain ⟨d, hd⟩ := Option.isSome_iff_exists.mp (hs c List.mem_cons_self)
    have hvalue : d = c.toNat - '0'.toNat := by
      unfold Text.digit? at hd
      split at hd <;> cases hd
      rfl
    rw [Nat.ofDigitChars_cons, Nat.mul_comm, ← hvalue] at hbound ⊢
    rw [accumulate, hd, Option.getD_some]
    simp only [if_pos (Nat.le_trans (le_ofDigitChars s _) hbound)]
    exact ih (fun a ha => hs a (List.mem_cons_of_mem _ ha)) hbound

theorem accumulate_decimal {bound n : Nat} (h : n ≤ bound) :
    accumulate bound 0 (Text.decimal n) = (n, 0) := by
  have hvalue : Nat.ofDigitChars 10 (Text.decimal n) 0 = n := Nat.ofDigitChars_ten_toDigits
  rw [accumulate_eq (fun _ => Text.isDigit_of_mem_decimal) (by rw [hvalue]; exact h), hvalue]

/-- The numeral of an integer. -/
def Numeral.ofInt (negative : Bool) (n : Nat) : Numeral where
  negative := negative
  whole := Text.decimal n
  fraction := none
  exponent := none
  whole_ne_nil := Text.decimal_ne_nil n
  isWhole _ := Text.isDigit_of_mem_decimal
  noLeadingZero := Text.decimal_of_head
  fraction_ne_nil := nofun
  isFraction := nofun

theorem Numeral.ofInt_unsigned (negative : Bool) (n : Nat) :
    (Numeral.ofInt negative n).unsigned = Text.decimal n := List.append_nil _

theorem Numeral.ofInt_read (negative : Bool) {n : Nat} (h : n ≤ maxSignificand) :
    (Numeral.ofInt negative n).read =
      (verdict (numberTail.whole negative n 0 [])).map Prod.fst := by
  have hwhole := number_whole (Numeral.ofInt negative n) (s := []) nofun
  rw [show (Numeral.ofInt negative n).whole = Text.decimal n from rfl, List.append_nil,
    accumulate_decimal h] at hwhole
  rw [Numeral.read, Numeral.ofInt_unsigned, hwhole]
  rfl

/-- The numeral of an integer with its sign. -/
def Numeral.ofInteger : Int → Numeral
  | .ofNat n => .ofInt false n
  | .negSucc n => .ofInt true (n + 1)

theorem Numeral.ofInteger_text (n : Int) : (Numeral.ofInteger n).text = (Json.int n).print := by
  cases n with
  | ofNat n => exact Numeral.ofInt_unsigned false n
  | negSucc n => exact congrArg ('-' :: ·) (Numeral.ofInt_unsigned true (n + 1))

theorem spells_int {n : Int} (hlow : -2 ^ 63 ≤ n) (hhigh : n < 2 ^ 64) :
    Spells (.number (.ofInteger n)) (.int n) where
  text := Numeral.ofInteger_text n
  read room := by
    cases n with
    | ofNat k =>
      have hk : k ≤ maxSignificand := by
        have hsize : (k : Int) < 2 ^ 64 := hhigh
        rw [maxSignificand, show UInt64.size = 2 ^ 64 from rfl]
        omega
      rw [Tree.read, Numeral.ofInteger, Numeral.ofInt_read _ hk]
      rfl
    | negSucc k =>
      have hk : k + 1 ≤ maxNegative := by
        rw [maxNegative]
        omega
      have hsignificand : k + 1 ≤ maxSignificand := Nat.le_trans hk (by decide)
      have hfits : ¬ (k + 1 = 0 ∨ maxNegative < k + 1) := by omega
      rw [Tree.read, Numeral.ofInteger, Numeral.ofInt_read _ hsignificand, numberTail.whole]
      simp only [if_neg hfits]
      rfl

/-! ## Arrays and objects -/

section
variable {A B : Type} {R : A → B → Prop}

theorem exists_forall₂ {bs : List B} (h : ∀ b ∈ bs, ∃ a, R a b) :
    ∃ as, List.Forall₂ R as bs := by
  induction bs with
  | nil => exact ⟨[], .nil⟩
  | cons b bs ih =>
    obtain ⟨a, ha⟩ := h b List.mem_cons_self
    obtain ⟨as, has⟩ := ih fun b hb => h b (List.mem_cons_of_mem _ hb)
    exact ⟨a :: as, .cons ha has⟩

end

/-- A token without blanks. -/
def Spaced.compact {A : Type} (a : A) : Spaced A := ⟨.none, a, .none⟩

/-- An item that has the text of a value, without blanks. -/
def PrintsItem (i : Spaced Tree) (v : Json) : Prop := ∃ t, i = .compact t ∧ t.text = v.print

/-- A member that has the text of a key and a value, without blanks. -/
def PrintsMember (m : Member) (kv : String × Json) : Prop :=
  ∃ letters t, m = (.compact letters, .compact t) ∧ SpellsText letters kv.1.toList ∧
    t.text = kv.2.print

theorem PrintsMember.key {m : Member} {kv : String × Json} (h : PrintsMember m kv) :
    Tree.key? m = some kv.1 := by
  obtain ⟨letters, t, rfl, hkey, _⟩ := h
  exact Tree.key?_eq_some.mpr ⟨_, hkey.2, String.ofList_toList⟩

section
variable {its : List (Spaced Tree)} {items : List Json} (h : List.Forall₂ PrintsItem its items)
include h

theorem itemsText_eq_print : Tree.itemsText false its ++ [']'] = printMoreItems items := by
  induction h with
  | nil => rfl
  | @cons i v its items hi _ ih =>
    obtain ⟨t, rfl, ht⟩ := hi
    rw [printMoreItems, ← ih, ← ht]
    simp [Tree.itemsText, Spaced.compact, Gap.none]

theorem array_text : (Tree.array its .none).text = (Json.arr items).print := by
  cases h with
  | nil => rfl
  | @cons i v its items hi hlater =>
    obtain ⟨t, rfl, ht⟩ := hi
    rw [print, ← itemsText_eq_print hlater, ← ht]
    simp [Tree.text, Tree.itemsText, Spaced.compact, Gap.none]

end

section
variable {ms : List Member} {members : List (String × Json)}
  (h : List.Forall₂ PrintsMember ms members)
include h

theorem membersText_eq_print :
    Tree.membersText false ms ++ ['\x7d'] = printMoreMembers members := by
  induction h with
  | nil => rfl
  | @cons m kv ms members hm _ ih =>
    obtain ⟨letters, t, rfl, hkey, ht⟩ := hm
    obtain ⟨k, v⟩ := kv
    rw [printMoreMembers, ← ih, ← ht, quote, ← hkey.1]
    simp [Tree.membersText, Spaced.compact, Gap.none]

theorem object_text : (Tree.object ms .none).text = (Json.obj members).print := by
  cases h with
  | nil => rfl
  | @cons m kv ms members hm hlater =>
    obtain ⟨letters, t, rfl, hkey, ht⟩ := hm
    obtain ⟨k, v⟩ := kv
    rw [print, ← membersText_eq_print hlater, ← ht, quote, ← hkey.1]
    simp [Tree.text, Tree.membersText, Spaced.compact, Gap.none]

end

def SpellsItem (i : Spaced Tree) (v : Json) : Prop := ∃ t, i = .compact t ∧ Spells t v

def SpellsMember (m : Member) (kv : String × Json) : Prop :=
  ∃ letters t, m = (.compact letters, .compact t) ∧ SpellsText letters kv.1.toList ∧ Spells t kv.2

theorem SpellsItem.prints {i : Spaced Tree} {v : Json} (h : SpellsItem i v) : PrintsItem i v := by
  obtain ⟨t, hi, ht⟩ := h
  exact ⟨t, hi, ht.text⟩

theorem SpellsMember.prints {m : Member} {kv : String × Json} (h : SpellsMember m kv) :
    PrintsMember m kv := by
  obtain ⟨letters, t, hm, hkey, ht⟩ := h
  exact ⟨letters, t, hm, hkey, ht.text⟩

theorem printsMembers {ms : List Member} {members : List (String × Json)}
    (h : List.Forall₂ SpellsMember ms members) : List.Forall₂ PrintsMember ms members :=
  h.imp fun _ _ hm => hm.prints

section
variable {its : List (Spaced Tree)} {items : List Json} (h : List.Forall₂ SpellsItem its items)
include h

theorem readItems_printed (room : Nat) :
    Tree.readItems its room =
      if depthItems items ≤ room then .ok items else .error .nestedTooDeeply := by
  induction h with
  | nil => simp [Tree.readItems, depthItems]
  | @cons i v its items hi _ ih =>
    obtain ⟨t, rfl, ht⟩ := hi
    rw [Spaced.compact, Tree.readItems, ht.read, ih, depthItems]
    by_cases hv : v.depth ≤ room
    · by_cases hitems : depthItems items ≤ room
      · rw [if_pos hv, if_pos hitems, if_pos (Nat.max_le.mpr ⟨hv, hitems⟩)]
        rfl
      · rw [if_pos hv, if_neg hitems, if_neg fun hmax => hitems (Nat.max_le.mp hmax).2]
        rfl
    · rw [if_neg hv, if_neg fun hmax => hv (Nat.max_le.mp hmax).1]
      rfl

theorem spells_array : Spells (.array its .none) (.arr items) where
  text := array_text (h.imp fun _ _ hi => hi.prints)
  read room := by
    cases room with
    | zero => rfl
    | succ room =>
      rw [Tree.read, readItems_printed h, depth]
      by_cases hitems : depthItems items ≤ room
      · rw [if_pos hitems, if_pos (Nat.succ_le_succ hitems)]
        rfl
      · rw [if_neg hitems, if_neg fun hd => hitems (Nat.le_of_succ_le_succ hd)]
        rfl

end

section
variable {ms : List Member} {members : List (String × Json)}
  (h : List.Forall₂ SpellsMember ms members)
include h

theorem readMembers_printed (room : Nat) :
    Tree.readMembers ms room =
      if depthMembers members ≤ room then .ok members else .error .nestedTooDeeply := by
  induction h with
  | nil => simp [Tree.readMembers, depthMembers]
  | @cons m kv ms members hm _ ih =>
    obtain ⟨letters, t, rfl, hkey, ht⟩ := hm
    obtain ⟨k, v⟩ := kv
    rw [Spaced.compact, Spaced.compact, Tree.readMembers, hkey.2, ok_bind, ht.read, ih,
      depthMembers]
    by_cases hv : v.depth ≤ room
    · by_cases hmembers : depthMembers members ≤ room
      · rw [if_pos hv, if_pos hmembers, if_pos (Nat.max_le.mpr ⟨hv, hmembers⟩)]
        simp [String.ofList_toList, pure, Except.pure]
      · rw [if_pos hv, if_neg hmembers, if_neg fun hmax => hmembers (Nat.max_le.mp hmax).2]
        rfl
    · rw [if_neg hv, if_neg fun hmax => hv (Nat.max_le.mp hmax).1]
      rfl

theorem object_read (room : Nat) :
    (Tree.object ms .none).read room =
      if depthMembers members + 1 ≤ room then .ok (ofMembers members)
      else .error .nestedTooDeeply := by
  cases room with
  | zero => rfl
  | succ room =>
    rw [Tree.read, readMembers_printed h]
    by_cases hmembers : depthMembers members ≤ room
    · rw [if_pos hmembers, if_pos (Nat.succ_le_succ hmembers)]
      rfl
    · rw [if_neg hmembers, if_neg fun hd => hmembers (Nat.le_of_succ_le_succ hd)]
      rfl

end

theorem keyBefore_irrefl (k : String) : keyBefore k k = false := by
  rw [keyBefore, decide_eq_false (List.lt_irrefl _)]

theorem keyBefore_asymm {k l : String} (h : keyBefore k l = true) : keyBefore l k = false :=
  decide_eq_false (List.lt_asymm (of_decide_eq_true h))

/-- A member whose key comes after all others goes to the end. -/
theorem insertMember_last {key : String} {members : List (String × Json)}
    (h : ∀ m ∈ members, keyBefore m.1 key = true) (v : Json) :
    insertMember key v members = members ++ [(key, v)] := by
  induction members with
  | nil => rfl
  | cons m members ih =>
    have hm := h m List.mem_cons_self
    have hne : key ≠ m.1 := by
      intro hkey
      rw [← hkey, keyBefore_irrefl] at hm
      cases hm
    rw [insertMember, if_neg hne, if_neg (by rw [keyBefore_asymm hm]; decide),
      ih fun n hn => h n (List.mem_cons_of_mem _ hn)]
    rfl

theorem foldl_insertMember {members : List (String × Json)}
    (h : members.Pairwise fun m n => keyBefore m.1 n.1 = true) {acc : List (String × Json)}
    (hacc : ∀ m ∈ acc, ∀ n ∈ members, keyBefore m.1 n.1 = true) :
    members.foldl (fun acc m => insertMember m.1 m.2 acc) acc = acc ++ members := by
  induction members generalizing acc with
  | nil => simp
  | cons m members ih =>
    obtain ⟨hm, hmembers⟩ := List.pairwise_cons.mp h
    rw [List.foldl_cons, insertMember_last fun n hn => hacc n hn m List.mem_cons_self,
      ih hmembers, List.append_assoc]
    · rfl
    · intro a ha n hn
      rcases List.mem_append.mp ha with ha | ha
      · exact hacc a ha n (List.mem_cons_of_mem _ hn)
      · rw [List.mem_singleton.mp ha]
        exact hm n hn

/-- An object holds ascending members as they are. -/
theorem ofMembers_ascending {members : List (String × Json)}
    (h : members.Pairwise fun m n => keyBefore m.1 n.1 = true) :
    ofMembers members = .obj members := by
  rw [ofMembers, foldl_insertMember h (by simp), List.nil_append]

theorem exists_member {kv : String × Json} (h : ∃ t, Spells t kv.2) : ∃ m, SpellsMember m kv := by
  obtain ⟨letters, hletters⟩ := exists_letters kv.1.toList
  obtain ⟨t, ht⟩ := h
  exact ⟨_, letters, t, rfl, hletters, ht⟩

/-- Every value without doubles is spelled by its own text. -/
theorem Exact.spelled {v : Json} (h : Exact v) : ∃ t, Spells t v := by
  induction h with
  | null => exact ⟨.null, rfl, fun room => by simp [Tree.read, depth]⟩
  | bool b =>
    refine ⟨.bool b, ?_, fun room => by simp [Tree.read, depth]⟩
    cases b <;> rfl
  | int n hlow hhigh => exact ⟨_, spells_int hlow hhigh⟩
  | str s =>
    obtain ⟨letters, h⟩ := exists_letters s.toList
    exact ⟨_, spells_string h⟩
  | arr items _ ih =>
    obtain ⟨its, hits⟩ := exists_forall₂ (R := SpellsItem) fun v hv =>
      (ih v hv).elim fun t ht => ⟨.compact t, t, rfl, ht⟩
    exact ⟨_, spells_array hits⟩
  | obj members hsorted _ ih =>
    obtain ⟨ms, hms⟩ := exists_forall₂ (R := SpellsMember) fun m hm => exists_member (ih m hm)
    refine ⟨.object ms .none, object_text (printsMembers hms), fun room => ?_⟩
    rw [object_read hms, ofMembers_ascending hsorted, depth]

theorem Spells.value {t : Tree} {v : Json} (h : Spells t v) {room : Nat} (hroom : v.depth ≤ room) :
    value room v.print = .ok (v, []) := by
  have hvalue := value_text t room .none [] endsNumber_nil
  rw [value_gap, List.append_nil, h.text, h.read, if_pos hroom] at hvalue
  exact verdict_eq_ok.mp hvalue

end SmokeProbe.Json
