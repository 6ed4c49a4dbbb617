import Mathlib.Data.List.Forall2
import SmokeProbe.Proofs.JsonRecognition

/-!
# The grammar of records

Which texts are records, without regard to the order in which they are read. An object is one if
every field is named by exactly one member and with a fitting value; an array is one if it has the
values of the fields and nothing else.
-/
namespace SmokeProbe.Json

theorem mapM_eq_ok {A B E : Type} {f : A → Except E B} {as : List A} {bs : List B} :
    as.mapM f = .ok bs ↔ List.Forall₂ (fun a b => f a = .ok b) as bs := by
  induction as generalizing bs with
  | nil =>
    rw [List.mapM_nil, List.forall₂_nil_left_iff]
    exact ⟨fun h => (Except.ok.inj h).symm, fun h => congrArg Except.ok h.symm⟩
  | cons a as ih =>
    rw [List.mapM_cons, bind_eq_ok, List.forall₂_cons_left_iff]
    constructor
    · rintro ⟨b, hb, h⟩
      obtain ⟨bs', hbs, h⟩ := bind_eq_ok.mp h
      cases h
      exact ⟨b, bs', hb, ih.mp hbs, rfl⟩
    · rintro ⟨b, bs', hb, hbs, rfl⟩
      exact ⟨b, hb, bind_eq_ok.mpr ⟨bs', ih.mpr hbs, rfl⟩⟩

theorem forall₂_congr_mem {A B : Type} {R S : A → B → Prop} {as : List A} {bs : List B}
    (h : ∀ a ∈ as, ∀ b, R a b ↔ S a b) : List.Forall₂ R as bs ↔ List.Forall₂ S as bs := by
  induction as generalizing bs with
  | nil => simp only [List.forall₂_nil_left_iff]
  | cons a as ih =>
    have hlater : ∀ bs, List.Forall₂ R as bs ↔ List.Forall₂ S as bs :=
      fun bs => ih fun a ha => h a (List.mem_cons_of_mem _ ha)
    simp only [List.forall₂_cons_left_iff, h a List.mem_cons_self, hlater]

namespace Tree

/-- The values of the members with a key, in the order of the text. Keys are compared after their
escapes have been read. -/
def named (key : String) (members : List Member) : List Tree :=
  (members.filter fun m => key? m == some key).map fun m => m.2.token

theorem named_cons_self {key : String} {m : Member} (h : key? m = some key)
    (members : List Member) : named key (m :: members) = m.2.token :: named key members := by
  simp [named, h]

theorem named_cons_other {key : String} {m : Member} (h : key? m ≠ some key)
    (members : List Member) : named key (m :: members) = named key members := by
  simp [named, h]

/-- A field gets its value from the members read before or from one that follows, not from both. -/
def Settles (found : List (String × Json)) (members : List Member) (field : String × FieldKind)
    (v : Json) : Prop :=
  found.lookup field.1 = some v ∧ named field.1 members = [] ∨
    found.lookup field.1 = none ∧
      ∃ t, named field.1 members = [t] ∧ t.readField field.2 = .ok v

theorem any_key_iff {found : List (String × Json)} {key : String} :
    found.any (·.1 == key) = true ↔ found.lookup key ≠ none := by
  induction found with
  | nil => simp
  | cons m found ih =>
    obtain ⟨k, v⟩ := m
    rw [List.any_cons, List.lookup_cons]
    by_cases hk : k = key
    · simp [hk]
    · rw [show (key == k) = false by simpa using Ne.symm hk]
      simp only [show (k == key) = false by simpa using hk, Bool.false_or, ih]

theorem lookup_append_self {found : List (String × Json)} {key : String}
    (h : found.lookup key = none) (v : Json) : (found ++ [(key, v)]).lookup key = some v := by
  rw [List.lookup_append, h]
  simp

theorem lookup_append_other {found : List (String × Json)} {key other : String}
    (h : other ≠ key) (v : Json) : (found ++ [(key, v)]).lookup other = found.lookup other := by
  rw [List.lookup_append, List.lookup_cons, show (other == key) = false by simpa using h]
  simp

theorem lookup_of_mem {fields : List (String × FieldKind)} (hnodup : (fields.map Prod.fst).Nodup)
    {field : String × FieldKind} (h : field ∈ fields) : fields.lookup field.1 = some field.2 := by
  induction fields with
  | nil => cases h
  | cons first fields ih =>
    rw [List.map_cons, List.nodup_cons] at hnodup
    obtain ⟨k, kind⟩ := first
    rw [List.lookup_cons]
    rcases List.mem_cons.mp h with rfl | hmem
    · simp
    · have hne : field.1 ≠ k := by
        rintro rfl
        exact hnodup.1 (List.mem_map.mpr ⟨field, hmem, rfl⟩)
      rw [show (field.1 == k) = false by simpa using hne]
      exact ih hnodup.2 hmem

section
variable {fields : List (String × FieldKind)}

/-- A member that is no field settles nothing. -/
theorem settles_other {m : Member} {key : String} (hkey : key? m = some key)
    (hlookup : fields.lookup key = none) (hnodup : (fields.map Prod.fst).Nodup)
    (found : List (String × Json)) (members : List Member) :
    ∀ field ∈ fields, ∀ v,
      Settles found members field v ↔ Settles found (m :: members) field v := by
  intro field hfield v
  have hne : key? m ≠ some field.1 := by
    rw [hkey]
    rintro ⟨⟩
    rw [lookup_of_mem hnodup hfield] at hlookup
    cases hlookup
  rw [Settles, Settles, named_cons_other hne]

/-- A member that is a field settles that one. -/
theorem settles_field {m : Member} {key : String} {kind : FieldKind} {found : List (String × Json)}
    {v : Json} (hkey : key? m = some key) (hlookup : fields.lookup key = some kind)
    (hnodup : (fields.map Prod.fst).Nodup) (hfound : found.lookup key = none)
    (hv : m.2.token.readField kind = .ok v) (members : List Member) :
    ∀ field ∈ fields, ∀ w,
      Settles (found ++ [(key, v)]) members field w ↔ Settles found (m :: members) field w := by
  intro field hfield w
  by_cases hname : field.1 = key
  · have hkind : field.2 = kind := by
      have h := lookup_of_mem hnodup hfield
      rw [hname, hlookup] at h
      exact (Option.some.inj h).symm
    rw [Settles, Settles, hname, hkind, lookup_append_self hfound, named_cons_self hkey, hfound]
    simp only [reduceCtorEq, false_and, or_false, Option.some.injEq, List.cons.injEq,
      List.cons_ne_nil, and_false, true_and, false_or]
    constructor
    · rintro ⟨rfl, hnone⟩
      exact ⟨m.2.token, ⟨rfl, hnone⟩, hv⟩
    · rintro ⟨t, ⟨rfl, hnone⟩, hw⟩
      exact ⟨Except.ok.inj (hv.symm.trans hw), hnone⟩
  · have hne : key? m ≠ some field.1 := by
      rw [hkey]
      rintro ⟨⟩
      exact hname rfl
    rw [Settles, Settles, lookup_append_other hname, named_cons_other hne]

theorem inFieldOrder_eq_ok {found : List (String × Json)} {vs : List Json} :
    inFieldOrder fields found = .ok vs ↔ List.Forall₂ (Settles found []) fields vs := by
  rw [inFieldOrder, mapM_eq_ok]
  apply forall₂_congr_mem
  intro field _ v
  cases h : found.lookup field.1 <;> simp [Settles, h, named]

/-- The fields of an object, in terms of the members alone. -/
theorem collect_eq_ok (hnodup : (fields.map Prod.fst).Nodup) {members : List Member}
    {found : List (String × Json)} {vs : List Json} :
    (collect fields found members >>= inFieldOrder fields) = .ok vs ↔
      (∀ m ∈ members, (key? m).isSome) ∧ List.Forall₂ (Settles found members) fields vs := by
  induction members generalizing found with
  | nil =>
    rw [collect, ok_bind, inFieldOrder_eq_ok]
    simp
  | cons m members ih =>
    rw [collect, List.forall_mem_cons]
    cases hletters : Letter.read m.1.token with
    | error cause =>
      have hkey : key? m = none := by rw [key?, hletters]; rfl
      simp [Except.map, hkey]
    | ok s =>
      have hkey : key? m = some (String.ofList s) := by rw [key?, hletters]; rfl
      simp only [Except.map, ok_bind, hkey, Option.isSome_some, true_and]
      cases hlookup : fields.lookup (String.ofList s) with
      | none =>
        rw [ih]
        exact and_congr_right fun _ =>
          forall₂_congr_mem (settles_other hkey hlookup hnodup found members)
      | some kind =>
        have hmem : (String.ofList s, kind) ∈ fields := by
          obtain ⟨front, back, hsplit, _⟩ := List.lookup_eq_some_iff.mp hlookup
          rw [hsplit]
          simp
        simp only
        by_cases hdup : found.any (·.1 == String.ofList s) = true
        · rw [if_pos hdup]
          refine iff_of_false (by simp) ?_
          rintro ⟨_, hall⟩
          obtain ⟨v, -, hv⟩ := exists_of_mem_left hall hmem
          have hsome := any_key_iff.mp hdup
          rw [Settles, named_cons_self hkey] at hv
          rcases hv with ⟨_, hnil⟩ | ⟨hnone, _⟩
          · cases hnil
          · exact hsome hnone
        · rw [if_neg hdup]
          have hfound : found.lookup (String.ofList s) = none := by
            by_contra h
            exact hdup (any_key_iff.mpr h)
          cases hv : m.2.token.readField kind with
          | error cause =>
            refine iff_of_false (by simp) ?_
            rintro ⟨_, hall⟩
            obtain ⟨v, -, hsettles⟩ := exists_of_mem_left hall hmem
            rw [Settles, named_cons_self hkey] at hsettles
            rcases hsettles with ⟨_, hnil⟩ | ⟨_, t, hone, hread⟩
            · cases hnil
            · obtain ⟨rfl, _⟩ := List.cons.inj hone
              cases hv.symm.trans hread
          | ok v =>
            rw [ok_bind, ih]
            exact and_congr_right fun _ =>
              forall₂_congr_mem (settles_field hkey hlookup hnodup hfound hv members)

end

theorem readPositions_eq_ok {shape : Shape} {fields : List (String × FieldKind)} {position : Nat}
    {items : List (Spaced Tree)} {vs : List Json} :
    readPositions shape fields position items = .ok vs ↔
      List.Forall₂ (fun field (iv : Spaced Tree × Json) => iv.1.token.readField field.2 = .ok iv.2)
        fields (items.zip vs) ∧ items.length = vs.length := by
  induction fields generalizing position items vs with
  | nil =>
    rw [List.forall₂_nil_left_iff, List.zip_eq_nil_iff]
    cases items <;> cases vs <;> simp [readPositions]
  | cons field fields ih =>
    cases items with
    | nil => simp [readPositions]
    | cons i items =>
      rw [readPositions, bind_eq_ok]
      constructor
      · rintro ⟨v, hv, h⟩
        obtain ⟨ws, hws, h⟩ := bind_eq_ok.mp h
        cases h
        obtain ⟨hall, hlength⟩ := ih.mp hws
        exact ⟨.cons hv hall, congrArg (· + 1) hlength⟩
      · rintro ⟨hall, hlength⟩
        cases vs with
        | nil => cases hlength
        | cons v ws =>
          cases hall with
          | cons hv hall =>
            exact ⟨v, hv, bind_eq_ok.mpr ⟨ws, ih.mpr ⟨hall, Nat.succ.inj hlength⟩, rfl⟩⟩

theorem refuse_ne_ok {A : Type} {expected : String} {t : Tree} {a : A} :
    t.refuse expected ≠ .ok a := by
  cases t with
  | array items inner => nofun
  | object members inner => nofun
  | _ =>
    intro h
    obtain ⟨v, _, h⟩ := bind_eq_ok.mp h
    cases h

/-- A string, after its escapes have been read. -/
def IsText (t : Tree) (s : String) : Prop :=
  ∃ letters, t = string letters ∧ Letter.read letters = .ok s.toList

/-- Any value that the reader of values takes at the depth of a field. -/
def IsValue (t : Tree) (v : Json) : Prop := value fieldRoom t.text = .ok (v, [])

theorem readField_text_eq_ok {t : Tree} {v : Json} :
    t.readField .text = .ok v ↔ ∃ s, v = .str s ∧ t.IsText s := by
  constructor
  · intro h
    cases t with
    | string letters =>
      obtain ⟨cs, hcs, rfl⟩ := map_eq_ok.mp h
      exact ⟨_, rfl, letters, rfl, by rw [hcs, String.toList_ofList]⟩
    | _ =>
      simp only [readField] at h
      exact absurd h refuse_ne_ok
  · rintro ⟨s, rfl, letters, rfl, hs⟩
    exact map_eq_ok.mpr ⟨s.toList, hs, by rw [String.ofList_toList]⟩

theorem readField_any_eq_ok {t : Tree} {v : Json} :
    t.readField .any = .ok v ↔ t.IsValue v := by
  have hvalue := value_text t fieldRoom .none [] endsNumber_nil
  rw [value_gap, List.append_nil] at hvalue
  rw [IsValue, ← verdict_eq_ok, hvalue, map_eq_ok]
  constructor
  · intro h
    exact ⟨v, h, rfl⟩
  · rintro ⟨w, h, hw⟩
    cases hw
    exact h

/-- Exactly one member has a key, and its value is of a kind. -/
def Once (key : String) (members : List Member) (kind : Tree → Prop) : Prop :=
  ∃ t, named key members = [t] ∧ kind t

/-- No key has half a surrogate pair in it. -/
def ProperKeys (members : List Member) : Prop := ∀ m ∈ members, (key? m).isSome

end Tree

theorem parseRecord_eq_ok {shape : Shape} {d : Spaced Tree} {vs : List Json} :
    parseRecord shape (String.ofList (documentText d)) = .ok vs ↔
      d.token.readRecord shape = .ok vs := by
  rw [← parseRecord_text]
  cases parseRecord shape (String.ofList (documentText d)) <;> simp [Except.mapError]

/-- Whatever is no blank may not follow the value of a document. -/
theorem parseRecord_trailing {shape : Shape} {d : Spaced Tree} {c : Char} (hc : isGap c = false)
    (junk : List Char) {vs : List Json} :
    parseRecord shape (String.ofList (documentText d ++ c :: junk)) ≠ .ok vs := by
  have hcompound : ∀ r : Except Cause (List Json),
      verdict (record shape (d.before.chars ++ (d.token.text ++ (d.after.chars ++ c :: junk)))) =
        r.map (·, d.after.chars ++ c :: junk) →
      (verdict (record shape (d.before.chars ++ (d.token.text ++ (d.after.chars ++ c :: junk)))) >>=
        fun r => verdict (finish r)) ≠ .ok vs := by
    rintro (cause | ws) h
    · rw [h]
      nofun
    · rw [h]
      simp only [Except.map, ok_bind]
      rw [verdict_finish_cons _ _ hc]
      nofun
  intro h
  have hcause := congrArg (Except.mapError Error.cause) h
  rw [parseRecord_cause, documentText, List.append_assoc, List.append_assoc] at hcause
  cases ht : d.token with
  | array items inner =>
    rw [ht] at hcause hcompound
    exact hcompound _ (record_array_text shape items inner _ _) hcause
  | object members inner =>
    rw [ht] at hcause hcompound
    exact hcompound _ (record_object_text shape members inner _ _) hcause
  | _ =>
    rw [ht, record_scalar shape (by simp) (by simp)] at hcause
    obtain ⟨r, hr, _⟩ := bind_eq_ok.mp hcause
    exact wrongKind_ne_ok (verdict_eq_ok.mp hr)

section
variable {shape : Shape} (hnodup : (shape.fields.map Prod.fst).Nodup)
include hnodup

theorem readRecord_object {members : List Member} {inner : Gap} {vs : List Json} :
    (Tree.object members inner).readRecord shape = .ok vs ↔
      Tree.ProperKeys members ∧ List.Forall₂ (Tree.Settles [] members) shape.fields vs :=
  Tree.collect_eq_ok hnodup

/-- Neither the order of the members nor the members that are no fields matter. -/
theorem readRecord_order {members members' : List Member} {inner inner' : Gap}
    (hkeys : Tree.ProperKeys members) (hkeys' : Tree.ProperKeys members')
    (hsame : ∀ field ∈ shape.fields,
      (Tree.named field.1 members).Perm (Tree.named field.1 members')) (vs : List Json) :
    (Tree.object members inner).readRecord shape = .ok vs ↔
      (Tree.object members' inner').readRecord shape = .ok vs := by
  rw [readRecord_object hnodup, readRecord_object hnodup]
  refine and_congr (iff_of_true hkeys hkeys') (forall₂_congr_mem fun field hfield v => ?_)
  have hone : ∀ t, Tree.named field.1 members = [t] ↔ Tree.named field.1 members' = [t] := by
    intro t
    rw [← List.perm_singleton, ← List.perm_singleton]
    exact ⟨(hsame field hfield).symm.trans, (hsame field hfield).trans⟩
  simp only [Tree.Settles, List.lookup_nil, reduceCtorEq, false_and, false_or, true_and, hone]

/-- The values of the fields in an array are what they are in an object. -/
theorem readRecord_array {items : List (Spaced Tree)} {members : List Member} {inner inner' : Gap}
    (hkeys : Tree.ProperKeys members)
    (hsame : List.Forall₂ (fun field i => Tree.named field.1 members = [i.token])
      shape.fields items) (vs : List Json) :
    (Tree.array items inner).readRecord shape = .ok vs ↔
      (Tree.object members inner').readRecord shape = .ok vs := by
  rw [readRecord_object hnodup, Tree.readRecord, Tree.readPositions_eq_ok]
  simp only [hkeys, true_and]
  generalize shape.fields = fields at hsame
  induction hsame generalizing vs with
  | nil => simp [eq_comm]
  | @cons field i fields items hi _ ih =>
    have hsettles : ∀ v, Tree.Settles [] members field v ↔ i.token.readField field.2 = .ok v := by
      simp [Tree.Settles, hi]
    cases vs with
    | nil => simp
    | cons v vs =>
      simp only [List.zip_cons_cons, List.forall₂_cons, List.length_cons, Nat.succ_inj, hsettles,
        and_assoc, ih]

end

end SmokeProbe.Json
