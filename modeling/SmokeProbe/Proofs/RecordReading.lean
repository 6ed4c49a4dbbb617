import Mathlib.Data.List.TakeWhile
import SmokeProbe.Proofs.JsonReading

/-!
# Reading records from laid-out texts

What a record reader makes of the text of a syntax tree, with the cause when it refuses. From this
follows which trees are accepted, without regard to the order of reading: an object with proper keys
in which every field occurs once and with a fitting value, whatever else it holds; an array of as
many fitting values as there are fields.
-/
namespace SmokeProbe.Json

/-- Levels that are left to the values of a record. -/
def fieldRoom : Nat := maxDepth - 1

namespace Tree

/-- Refusing a value for its kind. What cannot be read at all is refused for that instead. -/
def refuse {A : Type} (expected : String) : Tree → Except Cause A
  | array _ _ => .error (.wrongType "sequence" expected)
  | object _ _ => .error (.wrongType "map" expected)
  | t => t.read 0 >>= fun v => .error (.wrongType (describeFound v) expected)

/-- What a field takes a value for. -/
def readField (t : Tree) : FieldKind → Except Cause Json
  | .any => t.read fieldRoom
  | .text =>
    match t with
    | string letters => (Letter.read letters).map fun s => .str (String.ofList s)
    | t => t.refuse "a string"

/-- The key of a member, unless a surrogate stands alone in it. -/
def key? (m : Member) : Option String := (Letter.read m.1.token).toOption.map String.ofList

theorem key?_eq_some {m : Member} {k : String} :
    key? m = some k ↔ ∃ s, Letter.read m.1.token = .ok s ∧ String.ofList s = k := by
  rw [key?]
  cases Letter.read m.1.token <;> simp [Except.toOption]

/-- The members that are fields, in the order of the text. -/
def collect (fields : List (String × FieldKind)) :
    List (String × Json) → List Member → Except Cause (List (String × Json))
  | found, [] => .ok found
  | found, m :: members => do
    let key ← (Letter.read m.1.token).map String.ofList
    match fields.lookup key with
    | some kind =>
      if found.any (·.1 == key) then .error (.duplicateField key)
      else
        let v ← m.2.token.readField kind
        collect fields (found ++ [(key, v)]) members
    | none => collect fields found members

/-- The values of an array for the fields of a record. -/
def readPositions (shape : Shape) :
    List (String × FieldKind) → Nat → List (Spaced Tree) → Except Cause (List Json)
  | [], _, [] => .ok []
  | [], _, _ :: _ => .error .trailingCharacters
  | _ :: _, position, [] => .error (.wrongLength position shape.expectedCount)
  | field :: fields, position, i :: items => do
    let v ← i.token.readField field.2
    let vs ← readPositions shape fields (position + 1) items
    pure (v :: vs)

/-- The values of the fields of a record. -/
def readRecord (shape : Shape) : Tree → Except Cause (List Json)
  | array items _ => readPositions shape shape.fields 0 items
  | object members _ => collect shape.fields [] members >>= inFieldOrder shape.fields
  | t => t.refuse shape.expected

end Tree

/-! ## What the readers make of a tree -/

theorem Tree.refuse_map {A B : Type} (expected : String) (t : Tree) (f : A → B) :
    (t.refuse expected).map f = t.refuse expected := by
  cases t with
  | array items inner => rfl
  | object members inner => rfl
  | _ =>
    simp only [refuse]
    cases read _ 0 <;> rfl

section
variable {A : Type} (expected : String) {t : Tree} {rest : List Char} (hrest : EndsNumber rest)
include hrest

theorem wrongKind_of_scalar {r : Except Stop (Json × List Char)}
    (h : scalar? (t.text ++ rest) = some r) :
    verdict (wrongKind expected (t.text ++ rest) : Except Stop A) =
      t.read 0 >>= fun v => .error (.wrongType (describeFound v) expected) := by
  have hread := value_text t 0 .none rest hrest
  rw [value_gap, value_of_scalar h] at hread
  unfold wrongKind
  rw [h]
  cases ht : t.read 0 with
  | error cause =>
    rw [ht] at hread
    cases r with
    | ok r => cases hread
    | error e =>
      have he : e.cause = cause := Except.error.inj hread
      exact congrArg Except.error he
  | ok v =>
    rw [ht] at hread
    cases r with
    | error e => cases hread
    | ok r =>
      cases hread
      rfl

/-- A value of the wrong kind is refused for its kind. -/
theorem wrongKind_text :
    verdict (wrongKind expected (t.text ++ rest) : Except Stop A) = t.refuse expected := by
  cases t with
  | array items inner => rfl
  | object members inner => rfl
  | number n =>
    have hs : scalar? ((Tree.number n).text ++ rest) = _ := scalar?_number n rest
    exact wrongKind_of_scalar expected hrest hs
  | string letters => exact wrongKind_of_scalar expected hrest (scalar?_string letters rest)
  | null => exact wrongKind_of_scalar expected hrest rfl
  | bool b => cases b <;> exact wrongKind_of_scalar expected hrest rfl

end

theorem fieldValue_text (t : Tree) (kind : FieldKind) :
    Reads (fieldValue fieldRoom kind) t (t.readField kind) := by
  intro g rest hrest
  cases kind with
  | any => exact value_text t fieldRoom g rest hrest
  | text =>
    obtain ⟨c, s, ht, _⟩ := t.text_head
    rw [fieldValue, skipGaps_append, skipGaps_text]
    by_cases hc : c = '\x22'
    · obtain ⟨letters, rfl⟩ := Tree.eq_string_of_text (hc ▸ ht)
      rw [Tree.text, List.append_assoc]
      simp only [List.cons_append, List.nil_append, if_true, verdict_map, string_text]
      rw [Tree.readField]
      cases Letter.read letters <;> rfl
    · have hkind := wrongKind_text (A := Json × List Char) "a string" (t := t) hrest
      have hfield : t.readField .text = t.refuse "a string" := by
        cases t with
        | string letters =>
          cases ht
          exact absurd rfl hc
        | _ => rfl
      rw [ht] at hkind ⊢
      simp only [List.cons_append, hc, if_false] at hkind ⊢
      rw [hkind, hfield, Tree.refuse_map]

theorem recordMembers_text (fields : List (String × FieldKind)) (members : List Member)
    (first : Bool) (found : List (String × Json)) (g inner : Gap) (rest : List Char) (fuel : Nat)
    (hf : members.length < fuel) :
    verdict (recordMembers fieldRoom fields fuel first found
        (g.chars ++ (Tree.membersText first members ++ (inner.chars ++ '\x7d' :: rest)))) =
      (Tree.collect fields found members).map (·, '\x7d' :: rest) := by
  induction members generalizing first found g fuel with
  | nil =>
    obtain ⟨fuel, rfl⟩ := Nat.exists_eq_add_one.mpr hf
    rw [Tree.membersText, List.nil_append, recordMembers, nextMember_gap, nextMember_gap,
      nextMember_close]
    rfl
  | cons m members ih =>
    obtain ⟨fuel, rfl⟩ := Nat.exists_eq_add_one.mpr (Nat.zero_lt_of_lt hf)
    have hends := endsNumber_members members m.2.after inner rest
    rw [Tree.membersText, recordMembers, nextMember_gap]
    simp only [List.append_assoc, List.cons_append]
    rw [nextMember_member first m.1.before]
    simp only [ok_bind, if_true, verdict_bind]
    rw [string_text, Tree.collect]
    cases Letter.read m.1.token with
    | error cause => rfl
    | ok k =>
      simp only [ok_bind, Except.map]
      cases fields.lookup (String.ofList k) with
      | none =>
        simp only [verdict_bind]
        rw [colon_text, verdict_ok, ok_bind, skipValue_text _ _ hends, verdict_ok, ok_bind]
        exact ih false found m.2.after fuel (Nat.lt_of_succ_lt_succ hf)
      | some kind =>
        simp only
        by_cases hdup : found.any (·.1 == String.ofList k) = true
        · rw [if_pos hdup, if_pos hdup]
          rfl
        · rw [if_neg hdup, if_neg hdup]
          simp only [verdict_bind]
          rw [colon_text, verdict_ok, ok_bind, fieldValue_text _ kind m.2.before _ hends]
          cases m.2.token.readField kind with
          | error cause => rfl
          | ok v =>
            simp only [ok_bind, Except.map]
            exact ih false _ m.2.after fuel (Nat.lt_of_succ_lt_succ hf)

theorem closeArray_gap (g : Gap) (s : List Char) : closeArray (g.chars ++ s) = closeArray s := by
  unfold closeArray
  rw [skipGaps_append]

/-- An array of a record that goes on behind the last field does not end there. -/
theorem closeArray_item (first : Bool) (i : Spaced Tree) (s : List Char) :
    verdict
        (closeArray ((if first then [] else [',']) ++ (i.before.chars ++ (i.token.text ++ s)))) =
      .error .trailingCharacters := by
  obtain ⟨c, u, ht, hgap, hcomma, hclose, _⟩ := i.token.text_head
  rw [ht, List.cons_append]
  cases first with
  | true =>
    rw [if_pos rfl, List.nil_append, closeArray_gap, closeArray, skipGaps_cons hgap]
    simp [hcomma, hclose]
  | false =>
    rw [if_neg (by decide), List.singleton_append, closeArray, skipGaps_cons (by decide)]
    simp [skipGaps_append, skipGaps_cons hgap, hclose]

theorem recordItems_text (shape : Shape) (fields : List (String × FieldKind))
    (items : List (Spaced Tree)) (position : Nat) (g inner : Gap) (rest : List Char) :
    verdict (recordItems fieldRoom shape fields position
        (g.chars ++ (Tree.itemsText (position == 0) items ++ (inner.chars ++ ']' :: rest))) >>=
          fun r => (closeArray r.2).map fun s => (r.1, s)) =
      (Tree.readPositions shape fields position items).map (·, rest) := by
  induction fields generalizing items position g with
  | nil =>
    rw [recordItems, pure_bind, verdict_map, closeArray_gap]
    cases items with
    | nil =>
      rw [Tree.itemsText, List.nil_append, closeArray_gap, closeArray_text]
      rfl
    | cons i items =>
      rw [Tree.itemsText]
      simp only [List.append_assoc]
      rw [closeArray_item]
      rfl
  | cons field fields ih =>
    rw [recordItems, nextItem_gap]
    cases items with
    | nil =>
      rw [Tree.itemsText, List.nil_append, nextItem_gap, nextItem_close]
      rfl
    | cons i items =>
      obtain ⟨c, s, ht, hgap, _, hclose, _⟩ := i.token.text_head
      have hends := endsNumber_items items i.after inner rest
      have hlater := ih items (position + 1) i.after
      rw [Tree.itemsText, Tree.readPositions]
      simp only [List.append_assoc]
      rw [ht, List.cons_append, nextItem_item _ i.before hgap hclose, ← List.cons_append, ← ht]
      simp only [ok_bind, if_true, verdict_bind, verdict_map] at hlater ⊢
      rw [show i.token.text ++ _ = Gap.none.chars ++ (i.token.text ++ _) from rfl,
        fieldValue_text _ field.2 .none _ hends]
      cases i.token.readField field.2 with
      | error cause => rfl
      | ok v =>
        simp only [ok_bind, Except.map]
        rw [show (position + 1 == 0) = false from rfl] at hlater
        generalize verdict (recordItems fieldRoom shape fields (position + 1) _) = r at hlater ⊢
        generalize Tree.readPositions shape fields (position + 1) items = result at hlater ⊢
        cases r with
        | error cause =>
          cases result with
          | error cause' => exact hlater
          | ok vs => cases hlater
        | ok r =>
          simp only [ok_bind, pure, Except.pure, verdict_ok] at hlater ⊢
          generalize verdict (closeArray r.2) = closing at hlater ⊢
          cases closing with
          | error cause =>
            cases result with
            | error cause' => exact hlater
            | ok vs => cases hlater
          | ok s =>
            cases result with
            | error cause => cases hlater
            | ok vs =>
              cases hlater
              rfl

/-! ## Whole texts -/

theorem recordArray_eq (room : Nat) (shape : Shape) (s : List Char) :
    recordArray room shape s =
      recordItems room shape shape.fields 0 s >>=
        fun r => (closeArray r.2).map fun s => (r.1, s) := by
  unfold recordArray
  cases recordItems room shape shape.fields 0 s with
  | error e => rfl
  | ok r =>
    cases hr : closeArray r.2 <;> simp [hr, bind, Except.bind, Except.map, pure, Except.pure]

theorem record_array_text (shape : Shape) (items : List (Spaced Tree)) (inner g : Gap)
    (rest : List Char) :
    verdict (record shape (g.chars ++ ((Tree.array items inner).text ++ rest))) =
      ((Tree.array items inner).readRecord shape).map (·, rest) := by
  have hitems := recordItems_text shape shape.fields items 0 .none inner rest
  rw [record, skipGaps_append, skipGaps_text, Tree.text, Tree.readRecord, ← hitems]
  simp only [List.cons_append, List.append_assoc, List.nil_append, if_true]
  rw [recordArray_eq]
  rfl

theorem record_object_text (shape : Shape) (members : List Member) (inner g : Gap)
    (rest : List Char) :
    verdict (record shape (g.chars ++ ((Tree.object members inner).text ++ rest))) =
      ((Tree.object members inner).readRecord shape).map (·, rest) := by
  have hlength := Tree.length_le_membersText true members
  have hmembers := recordMembers_text shape.fields members true [] .none inner rest
    ((Tree.membersText true members ++ (inner.chars ++ '\x7d' :: rest)).length + 1)
    (by rw [List.length_append]; omega)
  rw [show Gap.none.chars ++ _ = _ from List.nil_append _] at hmembers
  rw [record, skipGaps_append, skipGaps_text, Tree.text, Tree.readRecord]
  simp only [List.cons_append, List.append_assoc, List.nil_append, if_true, recordObject,
    show ('\x7b' = '[') = False by simp, if_false]
  rw [verdict_bind, show maxDepth - 1 = fieldRoom from rfl, hmembers]
  cases Tree.collect shape.fields [] members with
  | error cause => rfl
  | ok found =>
    simp only [ok_bind, Except.map]
    cases inFieldOrder shape.fields found with
    | error cause => rfl
    | ok vs =>
      simp only [closeObject_text, ok_bind]
      rfl

/-- A text that is neither an array nor an object does not begin as one. -/
theorem Tree.scalar_head {t : Tree} (harray : ∀ items inner, t ≠ .array items inner)
    (hobject : ∀ members inner, t ≠ .object members inner) :
    ∀ c ∈ t.text.head?, c ≠ '[' ∧ c ≠ '\x7b' := by
  cases t with
  | array items inner => exact absurd rfl (harray items inner)
  | object members inner => exact absurd rfl (hobject members inner)
  | null =>
    rintro _ ⟨⟩
    decide
  | bool b =>
    cases b <;> rintro _ ⟨⟩ <;> decide
  | string letters =>
    rintro _ ⟨⟩
    decide
  | number n =>
    obtain ⟨c, s, hc, hcases⟩ := n.text_head
    rw [Tree.text, hc]
    rintro _ ⟨⟩
    rcases hcases with rfl | hdigit
    · decide
    · constructor <;> rintro rfl <;> cases hdigit

section
variable (shape : Shape) {t : Tree} (harray : ∀ items inner, t ≠ .array items inner)
  (hobject : ∀ members inner, t ≠ .object members inner) (g : Gap)
include harray hobject

theorem record_scalar (rest : List Char) :
    record shape (g.chars ++ (t.text ++ rest)) = wrongKind shape.expected (t.text ++ rest) := by
  obtain ⟨c, s, ht, _⟩ := t.text_head
  obtain ⟨hbracket, hbrace⟩ := Tree.scalar_head harray hobject c (by rw [ht]; rfl)
  rw [record, skipGaps_append, skipGaps_text, ht]
  simp only [List.cons_append, hbracket, hbrace, if_false]

theorem record_scalar_text {rest : List Char} (hrest : EndsNumber rest) :
    verdict (record shape (g.chars ++ (t.text ++ rest))) = (t.readRecord shape).map (·, rest) := by
  have hread : t.readRecord shape = t.refuse shape.expected := by
    cases t with
    | array items inner => exact absurd rfl (harray items inner)
    | object members inner => exact absurd rfl (hobject members inner)
    | _ => rfl
  rw [record_scalar shape harray hobject, wrongKind_text shape.expected hrest, hread,
    Tree.refuse_map]

end

/-- A record reader makes of a text what the text says. -/
theorem record_text (shape : Shape) (t : Tree) (g : Gap) {rest : List Char}
    (hrest : EndsNumber rest) :
    verdict (record shape (g.chars ++ (t.text ++ rest))) = (t.readRecord shape).map (·, rest) := by
  cases t with
  | array items inner => exact record_array_text shape items inner g rest
  | object members inner => exact record_object_text shape members inner g rest
  | _ => exact record_scalar_text shape (by simp) (by simp) g hrest

theorem verdict_finish_gap {A : Type} (a : A) (g : Gap) :
    verdict (finish (a, g.chars)) = .ok a := by
  have hskip : skipGaps g.chars = [] := List.dropWhile_eq_nil_iff.mpr g.blank
  rw [finish, hskip]
  rfl

theorem verdict_finish_cons {A : Type} (a : A) (g : Gap) {c : Char} (hc : isGap c = false)
    (s : List Char) : verdict (finish (a, g.chars ++ c :: s)) = .error .trailingCharacters := by
  rw [finish, skipGaps_append, skipGaps_cons hc]
  rfl

theorem parseRecord_cause (shape : Shape) (s : List Char) :
    (parseRecord shape (String.ofList s)).mapError Error.cause =
      verdict (record shape s) >>= fun r => verdict (finish r) := by
  rw [← verdict_bind]
  unfold parseRecord
  rw [String.toList_ofList]
  show _ = verdict ((record shape s).bind finish)
  cases (record shape s).bind finish <;> rfl

/-- A record in a text with blanks around it. -/
def documentText (d : Spaced Tree) : List Char :=
  d.before.chars ++ d.token.text ++ d.after.chars

theorem endsNumber_of_gap (g : Gap) : EndsNumber g.chars := by
  have h := endsNumber_gap g endsNumber_nil
  rwa [List.append_nil] at h

theorem parseRecord_text (shape : Shape) (d : Spaced Tree) :
    (parseRecord shape (String.ofList (documentText d))).mapError Error.cause =
      d.token.readRecord shape := by
  rw [parseRecord_cause, documentText, List.append_assoc,
    record_text shape d.token d.before (endsNumber_of_gap d.after)]
  cases d.token.readRecord shape with
  | error cause => rfl
  | ok vs => exact verdict_finish_gap vs d.after

end SmokeProbe.Json
