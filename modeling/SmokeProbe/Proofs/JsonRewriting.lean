import SmokeProbe.Proofs.KeyOrder
import SmokeProbe.Proofs.RecordGrammar

/-!
# Rewriting JSON texts

A text says the same if its blanks are changed, if a character of a string is spelled in another
way, if neighbours of an object with different keys change places, or if a member is added in front
of another one with its key. Each of these is a relation between syntax trees at their roots and is
carried to every depth at once.
-/
namespace SmokeProbe.Json

/-! ## Spelling -/

namespace Letter

/-- The spellings of a character: itself, an escape of one letter, its number, or the numbers of a
surrogate pair. -/
inductive IsSpelling (c : Char) : List Letter → Prop
  | plain (quoted : 0x20 ≤ c.toNat ∧ c ≠ '\x22' ∧ c ≠ '\x5c') : IsSpelling c [.plain c quoted]
  | escaped (letter : Char) (known : (letter, c) ∈ abbreviations) :
      IsSpelling c [.escaped letter c known]
  | numbered (x y z w : Char) (n : Nat) (digits : Text.hexadecimal? [x, y, z, w] = some n) :
      isTrailingSurrogate n = false → isLeadingSurrogate n = false → Char.ofNat n = c →
      IsSpelling c [.numbered x y z w n digits]
  | pair (x y z w x' y' z' w' : Char) (n m : Nat)
      (digits : Text.hexadecimal? [x, y, z, w] = some n)
      (digits' : Text.hexadecimal? [x', y', z', w'] = some m) :
      isTrailingSurrogate n = false → isLeadingSurrogate n = true → isTrailingSurrogate m = true →
      Char.ofNat (0x10000 + (n - 0xd800) * 0x400 + (m - 0xdc00)) = c →
      IsSpelling c [.numbered x y z w n digits, .numbered x' y' z' w' m digits']

/-- One character is spelled in another way. -/
inductive Respelled : List Letter → List Letter → Prop
  | mk (front back : List Letter) {a b : List Letter} (c : Char) :
      IsSpelling c a → IsSpelling c b → Respelled (front ++ (a ++ back)) (front ++ (b ++ back))

theorem Respelled.symm {a b : List Letter} (h : Respelled a b) : Respelled b a := by
  obtain ⟨front, back, c, ha, hb⟩ := h
  exact .mk front back c hb ha

theorem IsSpelling.read {c : Char} {a : List Letter} (h : IsSpelling c a) (back : List Letter) :
    read (a ++ back) = (read back).map (c :: ·) := by
  cases h with
  | plain quoted => rw [List.singleton_append, Letter.read]
  | escaped letter known => rw [List.singleton_append, Letter.read]
  | numbered x y z w n digits htrailing hleading hc =>
    rw [List.singleton_append, Letter.read.eq_def]
    simp [htrailing, hleading, hc]
  | pair x y z w x' y' z' w' n m digits digits' htrailing hleading hsecond hc =>
    rw [List.cons_append, List.singleton_append, Letter.read.eq_def]
    simp [htrailing, hleading, hsecond, hc]

/-- Half a surrogate pair is not completed by the spelling of a character. -/
theorem IsSpelling.not_completes {c : Char} {a : List Letter} (h : IsSpelling c a)
    {x y z w : Char} {n : Nat} (digits : Text.hexadecimal? [x, y, z, w] = some n)
    (hn : isTrailingSurrogate n = false) (hn' : isLeadingSurrogate n = true) (back : List Letter)
    (s : List Char) : Letter.read (.numbered x y z w n digits :: (a ++ back)) ≠ .ok s := by
  rw [Letter.read.eq_def]
  cases h with
  | plain | escaped => simp [hn, hn']
  | numbered _ _ _ _ m _ htrailing | pair _ _ _ _ _ _ _ _ m _ _ _ htrailing =>
    simp [hn, hn', htrailing]

theorem Respelled.read_eq_ok {a b : List Letter} (h : Respelled a b) {s : List Char}
    (hs : read a = .ok s) : read b = .ok s := by
  obtain ⟨front, back, c, ha, hb⟩ := h
  -- The letters in front are read as before, two at a time where they are a surrogate pair.
  fun_induction read front generalizing s with
  | case1 => rwa [List.nil_append, hb.read, ← ha.read]
  | case2 d quoted ls ih =>
    rw [List.cons_append, read] at hs ⊢
    obtain ⟨t, ht, rfl⟩ := map_eq_ok.mp hs
    rw [ih ht]
    rfl
  | case3 letter d known ls ih =>
    rw [List.cons_append, read] at hs ⊢
    obtain ⟨t, ht, rfl⟩ := map_eq_ok.mp hs
    rw [ih ht]
    rfl
  | case4 x y z w n digits ls htrailing =>
    rw [List.cons_append, read.eq_def] at hs
    simp [htrailing] at hs
  | case5 x y z w n digits htrailing hleading x' y' z' w' m digits' ls hsecond ih =>
    rw [List.cons_append, List.cons_append, read.eq_def] at hs ⊢
    simp only [htrailing, hleading, hsecond, Bool.false_eq_true, if_false, if_true] at hs ⊢
    obtain ⟨t, ht, rfl⟩ := map_eq_ok.mp hs
    rw [ih ht]
    rfl
  | case6 x y z w n digits htrailing hleading x' y' z' w' m digits' ls hsecond =>
    rw [List.cons_append, List.cons_append, read.eq_def] at hs
    simp [htrailing, hleading, hsecond] at hs
  | case7 x y z w n digits ls htrailing hleading hother =>
    -- The first half of a pair, right in front of the character or of a letter that is no half.
    cases ls with
    | nil => exact absurd hs (ha.not_completes digits (by simpa using htrailing) hleading back s)
    | cons l ls =>
      rw [List.cons_append, List.cons_append, read.eq_def] at hs
      cases l with
      | plain d quoted => simp [htrailing, hleading] at hs
      | escaped letter d known => simp [htrailing, hleading] at hs
      | numbered x' y' z' w' m digits' => exact absurd rfl (hother x' y' z' w' m digits' ls)
  | case8 x y z w n digits ls htrailing hleading ih =>
    rw [List.cons_append, read.eq_def] at hs ⊢
    simp only [htrailing, hleading, Bool.false_eq_true, if_false] at hs ⊢
    obtain ⟨t, ht, rfl⟩ := map_eq_ok.mp hs
    rw [ih ht]
    rfl

theorem Respelled.toOption_eq {a b : List Letter} (h : Respelled a b) :
    (read a).toOption = (read b).toOption := by
  cases ha : read a with
  | ok t => rw [h.read_eq_ok ha]
  | error cause =>
    cases hb : read b with
    | ok t =>
      rw [h.symm.read_eq_ok hb] at ha
      cases ha
    | error cause' => rfl

end Letter

/-! ## Texts that say no less -/

namespace Tree

/-- Whatever the one text says to a reader, the other says as well. -/
structure Keeps (t t' : Tree) : Prop where
  text : ∀ s, t.IsText s → t'.IsText s
  read : ∀ room v, t.read room = .ok v → t'.read room = .ok v

theorem Keeps.refl (t : Tree) : Keeps t t := ⟨fun _ => id, fun _ _ => id⟩

def KeepsItem (i i' : Spaced Tree) : Prop := Keeps i.token i'.token

theorem KeepsItem.refl (i : Spaced Tree) : KeepsItem i i := Keeps.refl i.token

/-- Members of one key, of which the second says no less. -/
def KeepsMember (m m' : Member) : Prop := key? m' = key? m ∧ Keeps m.2.token m'.2.token

theorem KeepsMember.refl (m : Member) : KeepsMember m m := ⟨rfl, .refl _⟩

theorem exists_of_append {A B : Type} {R : A → B → Prop} {front back : List A} {bs : List B}
    (h : List.Forall₂ R (front ++ back) bs) :
    ∃ cs ds, List.Forall₂ R front cs ∧ List.Forall₂ R back ds ∧ bs = cs ++ ds := by
  induction front generalizing bs with
  | nil => exact ⟨[], bs, .nil, h, rfl⟩
  | cons a front ih =>
    obtain ⟨b, bs, hb, hbs, rfl⟩ := List.forall₂_cons_left_iff.mp h
    obtain ⟨cs, ds, hcs, hds, rfl⟩ := ih hbs
    exact ⟨b :: cs, ds, .cons hb hcs, hds, rfl⟩

theorem forall₂_replaced {A : Type} {R : A → A → Prop} (hrefl : ∀ a, R a a) {a b : A} (h : R a b)
    (front back : List A) : List.Forall₂ R (front ++ a :: back) (front ++ b :: back) :=
  List.rel_append (List.forall₂_same.mpr fun x _ => hrefl x)
    (.cons h (List.forall₂_same.mpr fun x _ => hrefl x))

theorem readItems_eq_ok {items : List (Spaced Tree)} {room : Nat} {vs : List Json} :
    readItems items room = .ok vs ↔
      List.Forall₂ (fun i v => i.token.read room = .ok v) items vs := by
  rw [readItems_eq, mapM_eq_ok]

/-- A member with its key and its value. -/
def Says (room : Nat) (m : Member) (kv : String × Json) : Prop :=
  key? m = some kv.1 ∧ m.2.token.read room = .ok kv.2

theorem readMember_eq_ok {m : Member} {room : Nat} {kv : String × Json} :
    readMember (fun t => t.read room) m = .ok kv ↔ Says room m kv := by
  rw [readMember, Says, key?_eq_some, bind_eq_ok]
  constructor
  · rintro ⟨s, hs, h⟩
    obtain ⟨v, hv, h⟩ := bind_eq_ok.mp h
    cases h
    exact ⟨⟨s, hs, rfl⟩, hv⟩
  · rintro ⟨⟨s, hs, hkey⟩, hv⟩
    refine ⟨s, hs, ?_⟩
    rw [hv, ok_bind, hkey]
    rfl

theorem readMembers_eq_ok {members : List Member} {room : Nat} {kvs : List (String × Json)} :
    readMembers members room = .ok kvs ↔ List.Forall₂ (Says room) members kvs := by
  rw [readMembers_eq, mapM_eq_ok]
  exact forall₂_congr_mem fun _ _ _ => readMember_eq_ok

theorem KeepsMember.says {m m' : Member} (h : KeepsMember m m') {room : Nat} {kv : String × Json}
    (hm : Says room m kv) : Says room m' kv := ⟨h.1.trans hm.1, h.2.read room _ hm.2⟩

/-- What holds place by place is what is said by the others as well. -/
theorem forall₂_of_replaced {A B : Type} {R : A → A → Prop} {S : A → B → Prop}
    (hkeeps : ∀ a a' b, R a a' → S a b → S a' b) {as as' : List A} {bs : List B}
    (h : List.Forall₂ R as as') (hs : List.Forall₂ S as bs) : List.Forall₂ S as' bs := by
  induction h generalizing bs with
  | nil => exact hs
  | cons haa' _ ih =>
    obtain ⟨b, bs, hb, hbs, rfl⟩ := List.forall₂_cons_left_iff.mp hs
    exact .cons (hkeeps _ _ _ haa' hb) (ih hbs)

theorem isText_array {items : List (Spaced Tree)} {inner : Gap} {s : String} :
    ¬ (array items inner).IsText s := by
  rintro ⟨letters, h, _⟩
  cases h

theorem isText_object {members : List Member} {inner : Gap} {s : String} :
    ¬ (object members inner).IsText s := by
  rintro ⟨letters, h, _⟩
  cases h

section
variable (inner inner' : Gap)

theorem keeps_array {items items' : List (Spaced Tree)}
    (h : List.Forall₂ KeepsItem items items') :
    Keeps (array items inner) (array items' inner') := by
  refine ⟨fun s hs => absurd hs isText_array, fun room v hv => ?_⟩
  cases room with
  | zero => cases hv
  | succ room =>
    rw [read] at hv ⊢
    obtain ⟨vs, hvs, rfl⟩ := map_eq_ok.mp hv
    have hkept := forall₂_of_replaced (fun i i' v hi hv => hi.read room v hv) h
      (readItems_eq_ok.mp hvs)
    rw [readItems_eq_ok.mpr hkept]
    rfl

/-- An object says no less if, whatever its members say, the others say as much. -/
theorem keeps_object {members members' : List Member}
    (h : ∀ room kvs, List.Forall₂ (Says room) members kvs →
      ∃ kvs', List.Forall₂ (Says room) members' kvs' ∧ ofMembers kvs' = ofMembers kvs) :
    Keeps (object members inner) (object members' inner') := by
  refine ⟨fun s hs => absurd hs isText_object, fun room v hv => ?_⟩
  cases room with
  | zero => cases hv
  | succ room =>
    rw [read] at hv ⊢
    obtain ⟨kvs, hkvs, rfl⟩ := map_eq_ok.mp hv
    obtain ⟨kvs', hkvs', hsame⟩ := h room kvs (readMembers_eq_ok.mp hkvs)
    rw [readMembers_eq_ok.mpr hkvs', ← hsame]
    rfl

theorem keeps_object_members {members members' : List Member}
    (h : List.Forall₂ KeepsMember members members') :
    Keeps (object members inner) (object members' inner') :=
  keeps_object inner inner' fun _ kvs hkvs =>
    ⟨kvs, forall₂_of_replaced (fun _ _ _ hm hs => hm.says hs) h hkvs, rfl⟩

end

/-! ## Changes of a text -/

/-- A change in one place of a text, at any depth. -/
inductive Inside (R : Tree → Tree → Prop) : Tree → Tree → Prop
  | here {t t' : Tree} : R t t' → Inside R t t'
  | item {t t' : Tree} (front back : List (Spaced Tree)) (before after inner : Gap) :
      Inside R t t' →
      Inside R (array (front ++ ⟨before, t, after⟩ :: back) inner)
        (array (front ++ ⟨before, t', after⟩ :: back) inner)
  | value {t t' : Tree} (front back : List Member) (key : Spaced (List Letter))
      (before after inner : Gap) : Inside R t t' →
      Inside R (object (front ++ (key, ⟨before, t, after⟩) :: back) inner)
        (object (front ++ (key, ⟨before, t', after⟩) :: back) inner)

/-- What holds of a change at the root holds of it at any depth. -/
theorem Inside.keeps {R : Tree → Tree → Prop} (hR : ∀ t t', R t t' → Keeps t t') {t t' : Tree}
    (h : Inside R t t') : Keeps t t' := by
  induction h with
  | here h => exact hR _ _ h
  | @item t t' front back before after inner _ ih =>
    have hitem : KeepsItem ⟨before, t, after⟩ ⟨before, t', after⟩ := ih
    exact keeps_array inner inner (forall₂_replaced KeepsItem.refl hitem front back)
  | @value t t' front back key before after inner _ ih =>
    have hmember : KeepsMember (key, ⟨before, t, after⟩) (key, ⟨before, t', after⟩) := ⟨rfl, ih⟩
    exact keeps_object_members inner inner (forall₂_replaced KeepsMember.refl hmember front back)

theorem Inside.flip {R : Tree → Tree → Prop} {t t' : Tree} (h : Inside R t t') :
    Inside (fun a b => R b a) t' t := by
  induction h with
  | here h => exact .here h
  | item front back before after inner _ ih => exact .item front back before after inner ih
  | value front back key before after inner _ ih =>
    exact .value front back key before after inner ih

/-- A character of a string or of a key is spelled in another way. -/
inductive Respelled : Tree → Tree → Prop
  | string {letters letters' : List Letter} : Letter.Respelled letters letters' →
      Respelled (string letters) (string letters')
  | key {letters letters' : List Letter} (front back : List Member) (before after inner : Gap)
      (value : Spaced Tree) : Letter.Respelled letters letters' →
      Respelled (object (front ++ (⟨before, letters, after⟩, value) :: back) inner)
        (object (front ++ (⟨before, letters', after⟩, value) :: back) inner)

/-- Neighbours with different keys change places. -/
inductive Swapped : Tree → Tree → Prop
  | mk (front back : List Member) (m n : Member) (inner : Gap) : key? m ≠ key? n →
      Swapped (object (front ++ m :: n :: back) inner) (object (front ++ n :: m :: back) inner)

/-- A member is added somewhere in front of another one with its key. -/
inductive Shadowed : Tree → Tree → Prop
  | mk (front between back : List Member) (m n : Member) (inner : Gap) : key? m = key? n →
      Shadowed (object (front ++ (between ++ n :: back)) inner)
        (object (front ++ m :: (between ++ n :: back)) inner)

theorem keepsMember_respelled {letters letters' : List Letter}
    (h : Letter.Respelled letters letters') (before after : Gap) (value : Spaced Tree) :
    KeepsMember (⟨before, letters, after⟩, value) (⟨before, letters', after⟩, value) := by
  refine ⟨?_, .refl _⟩
  rw [key?, key?, h.toOption_eq]

theorem Respelled.keeps {t t' : Tree} (h : Respelled t t') : Keeps t t' := by
  cases h with
  | string h =>
    refine ⟨?_, fun room v hv => ?_⟩
    · rintro s ⟨letters, hletters, hs⟩
      cases hletters
      exact ⟨_, rfl, h.read_eq_ok hs⟩
    · rw [read] at hv ⊢
      obtain ⟨s, hs, rfl⟩ := map_eq_ok.mp hv
      rw [h.read_eq_ok hs]
      rfl
  | key front back before after inner value h =>
    exact keeps_object_members inner inner
      (forall₂_replaced KeepsMember.refl (keepsMember_respelled h before after value) front back)

theorem Swapped.keeps {t t' : Tree} (h : Swapped t t') : Keeps t t' := by
  obtain ⟨front, back, m, n, inner, hne⟩ := h
  refine keeps_object inner inner fun room kvs hkvs => ?_
  obtain ⟨kvs₁, kvs, hfront, hpair, rfl⟩ := exists_of_append hkvs
  obtain ⟨a, kvs, ha, hlater, rfl⟩ := List.forall₂_cons_left_iff.mp hpair
  obtain ⟨b, kvs₂, hb, hback, rfl⟩ := List.forall₂_cons_left_iff.mp hlater
  refine ⟨kvs₁ ++ b :: a :: kvs₂, List.rel_append hfront (.cons hb (.cons ha hback)), ?_⟩
  refine ofMembers_swapped (fun hkeys => hne ?_) kvs₁ kvs₂
  rw [ha.1, hb.1, hkeys]

theorem Shadowed.keeps {t t' : Tree} (h : Shadowed t t') : Keeps t' t := by
  obtain ⟨front, between, back, m, n, inner, hsame⟩ := h
  refine keeps_object inner inner fun room kvs hkvs => ?_
  obtain ⟨kvs₁, kvs, hfront, hadded, rfl⟩ := exists_of_append hkvs
  obtain ⟨a, kvs, ha, hothers, rfl⟩ := List.forall₂_cons_left_iff.mp hadded
  obtain ⟨kvs₂, kvs, hbetween, hlater, rfl⟩ := exists_of_append hothers
  obtain ⟨b, kvs₃, hb, hback, rfl⟩ := List.forall₂_cons_left_iff.mp hlater
  have hkeys : a.1 = b.1 := Option.some.inj (ha.1.symm.trans (hsame.trans hb.1))
  exact ⟨kvs₁ ++ (kvs₂ ++ b :: kvs₃),
    List.rel_append hfront (List.rel_append hbetween (.cons hb hback)),
    (ofMembers_shadowed hkeys kvs₁ kvs₂ kvs₃).symm⟩

/-! ## Blanks -/

mutual

/-- The text without the blanks between its tokens. -/
def bare : Tree → Tree
  | null => null
  | bool b => bool b
  | number n => number n
  | string letters => string letters
  | array items _ => array (bareItems items) .none
  | object members _ => object (bareMembers members) .none

def bareItems : List (Spaced Tree) → List (Spaced Tree)
  | [] => []
  | ⟨_, t, _⟩ :: items => ⟨.none, bare t, .none⟩ :: bareItems items

def bareMembers : List Member → List Member
  | [] => []
  | (⟨_, key, _⟩, ⟨_, t, _⟩) :: members =>
    (⟨.none, key, .none⟩, ⟨.none, bare t, .none⟩) :: bareMembers members

end

theorem bareItems_eq (items : List (Spaced Tree)) :
    bareItems items = items.map fun i => .compact i.token.bare := by
  induction items with
  | nil => rfl
  | cons i items ih => rw [bareItems, ih]; rfl

theorem bareMembers_eq (members : List Member) :
    bareMembers members =
      members.map fun m => (.compact m.1.token, .compact m.2.token.bare) := by
  induction members with
  | nil => rfl
  | cons m members ih => rw [bareMembers, ih]; rfl

/-- Two texts that say the same. -/
def SaysSame (t t' : Tree) : Prop := Keeps t t' ∧ Keeps t' t

theorem keepsItems_bare {items : List (Spaced Tree)}
    (h : ∀ i ∈ items, SaysSame i.token i.token.bare) :
    List.Forall₂ KeepsItem items (bareItems items) ∧
      List.Forall₂ KeepsItem (bareItems items) items := by
  rw [bareItems_eq, List.forall₂_map_right_iff, List.forall₂_map_left_iff, List.forall₂_same,
    List.forall₂_same]
  exact ⟨fun i hi => (h i hi).1, fun i hi => (h i hi).2⟩

theorem keepsMembers_bare {members : List Member}
    (h : ∀ m ∈ members, SaysSame m.2.token m.2.token.bare) :
    List.Forall₂ KeepsMember members (bareMembers members) ∧
      List.Forall₂ KeepsMember (bareMembers members) members := by
  rw [bareMembers_eq, List.forall₂_map_right_iff, List.forall₂_map_left_iff, List.forall₂_same,
    List.forall₂_same]
  exact ⟨fun m hm => ⟨rfl, (h m hm).1⟩, fun m hm => ⟨rfl, (h m hm).2⟩⟩

/-- Blanks between tokens say nothing. -/
theorem saysSame_bare (t : Tree) : SaysSame t t.bare := by
  induction t with
  | null | bool | number | string => exact ⟨.refl _, .refl _⟩
  | array items inner ih =>
    obtain ⟨h, h'⟩ := keepsItems_bare ih
    exact ⟨keeps_array inner .none h, keeps_array .none inner h'⟩
  | object members inner ih =>
    obtain ⟨h, h'⟩ := keepsMembers_bare ih
    exact ⟨keeps_object_members inner .none h, keeps_object_members .none inner h'⟩

end Tree

end SmokeProbe.Json
