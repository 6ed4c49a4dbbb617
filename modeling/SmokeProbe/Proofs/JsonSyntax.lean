import SmokeProbe.Json.Record
import SmokeProbe.Proofs.Results

/-!
# JSON texts with their layout

A syntax tree holds what a text says together with how it is laid out: the blanks between tokens,
the spelling of every character of a string, the members of an object in the order of the text. Its
text is the grammar of JSON, read off the tree; what the tree says is what a reader that enters at
most a given number of arrays and objects takes it for, or the cause for which that reader refuses
it.
-/
namespace SmokeProbe.Json

/-- The result of a reader without the place of an error. -/
def verdict {A : Type} (r : Except Stop A) : Except Cause A := r.mapError Stop.cause

section
variable {A B : Type}

@[simp] theorem verdict_ok (a : A) : verdict (.ok a) = .ok a := rfl

@[simp] theorem verdict_stop (cause : Cause) (s : List Char) :
    verdict (stop cause s : Except Stop A) = .error cause := rfl

@[simp] theorem verdict_stopOn (cause : Cause) (s : List Char) :
    verdict (stopOn cause s : Except Stop A) = .error cause := rfl

@[simp] theorem verdict_bind (r : Except Stop A) (f : A → Except Stop B) :
    verdict (r >>= f) = verdict r >>= fun a => verdict (f a) := by
  cases r <;> rfl

@[simp] theorem verdict_map (r : Except Stop A) (f : A → B) :
    verdict (r.map f) = (verdict r).map f := by
  cases r <;> rfl

theorem verdict_eq_ok {r : Except Stop A} {a : A} : verdict r = .ok a ↔ r = .ok a := by
  cases r <;> simp [verdict, Except.mapError]

end

/-- Blanks between tokens. -/
structure Gap where
  chars : List Char
  blank : ∀ c ∈ chars, isGap c = true

def Gap.none : Gap := ⟨[], nofun⟩

/-- A token and the blanks around it. -/
structure Spaced (A : Type) where
  before : Gap
  token : A
  after : Gap

/-- The escapes of one letter and what they stand for. -/
def abbreviations : List (Char × Char) := [
  ('\x22', '\x22'), ('\x5c', '\x5c'), ('/', '/'), ('b', '\x08'), ('f', '\x0c'), ('n', '\n'),
  ('r', '\r'), ('t', '\t')]

/-- One unit of a string between its quotes. -/
inductive Letter where
  | plain (c : Char) (quoted : 0x20 ≤ c.toNat ∧ c ≠ '\x22' ∧ c ≠ '\x5c')
  | escaped (letter c : Char) (known : (letter, c) ∈ abbreviations)
  | numbered (a b c d : Char) (n : Nat) (digits : Text.hexadecimal? [a, b, c, d] = some n)

namespace Letter

def text : Letter → List Char
  | plain c _ => [c]
  | escaped letter _ _ => ['\x5c', letter]
  | numbered a b c d _ _ => ['\x5c', 'u', a, b, c, d]

/-- The characters that letters stand for. Two surrogates stand for one character, and none stands
for a character alone. -/
def read : List Letter → Except Cause (List Char)
  | [] => .ok []
  | plain c _ :: ls => (read ls).map (c :: ·)
  | escaped _ c _ :: ls => (read ls).map (c :: ·)
  | numbered _ _ _ _ n _ :: ls =>
    if isTrailingSurrogate n then .error .loneSurrogate
    else if isLeadingSurrogate n then
      match ls with
      | numbered _ _ _ _ m _ :: ls =>
        if isTrailingSurrogate m then
          (read ls).map (Char.ofNat (0x10000 + (n - 0xd800) * 0x400 + (m - 0xdc00)) :: ·)
        else .error .loneSurrogate
      | _ => .error .incompleteSurrogatePair
    else (read ls).map (Char.ofNat n :: ·)

end Letter

/-- The exponent of a number. -/
structure Exponent where
  letter : Char
  sign : List Char
  digits : List Char
  isLetter : isExponentLetter letter = true
  isSign : sign ∈ [[], ['+'], ['-']]
  digits_ne_nil : digits ≠ []
  isDigits : ∀ c ∈ digits, Text.isDigit c = true

/-- A number as it is written. -/
structure Numeral where
  negative : Bool
  whole : List Char
  fraction : Option (List Char)
  exponent : Option Exponent
  whole_ne_nil : whole ≠ []
  isWhole : ∀ c ∈ whole, Text.isDigit c = true
  noLeadingZero : whole.head? = some '0' → whole = ['0']
  fraction_ne_nil : fraction ≠ some []
  isFraction : ∀ ds ∈ fraction, ∀ c ∈ ds, Text.isDigit c = true

def Exponent.text (e : Exponent) : List Char := e.letter :: e.sign ++ e.digits

namespace Numeral

/-- The exponent if there is one. -/
def exponentText (n : Numeral) : List Char :=
  match n.exponent with
  | some e => e.text
  | none => []

/-- What follows the whole part. -/
def tail (n : Numeral) : List Char :=
  match n.fraction with
  | some ds => '.' :: ds ++ n.exponentText
  | none => n.exponentText

section
variable (n : Numeral)

theorem exponentText_some {e : Exponent} (h : n.exponent = some e) : n.exponentText = e.text := by
  rw [exponentText, h]

theorem exponentText_none (h : n.exponent = none) : n.exponentText = [] := by
  rw [exponentText, h]

theorem tail_some {ds : List Char} (h : n.fraction = some ds) :
    n.tail = '.' :: ds ++ n.exponentText := by
  rw [tail, h]

theorem tail_none (h : n.fraction = none) : n.tail = n.exponentText := by
  rw [tail, h]

end

def unsigned (n : Numeral) : List Char := n.whole ++ n.tail

def text (n : Numeral) : List Char := if n.negative then '-' :: n.unsigned else n.unsigned

end Numeral

namespace Numeral

/-- The number that is meant, or the cause for which no number is. -/
def read (n : Numeral) : Except Cause Json :=
  (verdict (number n.negative n.unsigned)).map Prod.fst

end Numeral

/-- A JSON text with its layout. The blanks of an array or an object are those in front of its
closing bracket. -/
inductive Tree where
  | null
  | bool (b : Bool)
  | number (n : Numeral)
  | string (letters : List Letter)
  | array (items : List (Spaced Tree)) (inner : Gap)
  | object (members : List (Spaced (List Letter) × Spaced Tree)) (inner : Gap)

/-- A member of an object: its key and its value. -/
abbrev Member := Spaced (List Letter) × Spaced Tree

namespace Tree

mutual

def text : Tree → List Char
  | null => ['n', 'u', 'l', 'l']
  | bool true => ['t', 'r', 'u', 'e']
  | bool false => ['f', 'a', 'l', 's', 'e']
  | number n => n.text
  | string letters => '\x22' :: letters.flatMap Letter.text ++ ['\x22']
  | array items inner => '[' :: itemsText true items ++ inner.chars ++ [']']
  | object members inner => '\x7b' :: membersText true members ++ inner.chars ++ ['\x7d']

def itemsText : Bool → List (Spaced Tree) → List Char
  | _, [] => []
  | first, ⟨before, t, after⟩ :: items =>
    (if first then [] else [',']) ++ before.chars ++ text t ++ after.chars ++ itemsText false items

def membersText : Bool → List Member → List Char
  | _, [] => []
  | first, (⟨before, key, after⟩, ⟨before', t, after'⟩) :: members =>
    (if first then [] else [',']) ++ before.chars ++ '\x22' :: key.flatMap Letter.text ++ '\x22' ::
      after.chars ++ ':' :: before'.chars ++ text t ++ after'.chars ++ membersText false members

end

mutual

/-- What a text says to a reader that enters at most `room` arrays and objects, one inside the
other. The first thing that it refuses decides the cause. -/
def read : Tree → Nat → Except Cause Json
  | null, _ => .ok .null
  | bool b, _ => .ok (.bool b)
  | number n, _ => n.read
  | string letters, _ => (Letter.read letters).map fun s => .str (String.ofList s)
  | array _ _, 0 => .error .nestedTooDeeply
  | array items _, room + 1 => (readItems items room).map .arr
  | object _ _, 0 => .error .nestedTooDeeply
  | object members _, room + 1 => (readMembers members room).map ofMembers

def readItems : List (Spaced Tree) → Nat → Except Cause (List Json)
  | [], _ => .ok []
  | ⟨_, t, _⟩ :: items, room => do
    let v ← read t room
    let vs ← readItems items room
    pure (v :: vs)

def readMembers : List Member → Nat →
    Except Cause (List (String × Json))
  | [], _ => .ok []
  | (⟨_, key, _⟩, ⟨_, t, _⟩) :: members, room => do
    let k ← Letter.read key
    let v ← read t room
    let vs ← readMembers members room
    pure ((String.ofList k, v) :: vs)

end

theorem token_lt_array {items : List (Spaced Tree)} {i : Spaced Tree} (hi : i ∈ items)
    (inner : Gap) : sizeOf i.token < sizeOf (array items inner) := by
  have hmem := List.sizeOf_lt_of_mem hi
  have htoken : sizeOf i.token < sizeOf i := by
    cases i
    simp only [Spaced.mk.sizeOf_spec]
    omega
  rw [array.sizeOf_spec]
  omega

theorem token_lt_object {members : List Member} {m : Member} (hm : m ∈ members) (inner : Gap) :
    sizeOf m.2.token < sizeOf (object members inner) := by
  have hmem := List.sizeOf_lt_of_mem hm
  have htoken : sizeOf m.2.token < sizeOf m := by
    obtain ⟨key, value⟩ := m
    cases value
    simp only [Prod.mk.sizeOf_spec, Spaced.mk.sizeOf_spec]
    omega
  rw [object.sizeOf_spec]
  omega

/-- A statement about texts may be assumed of the items and of the values of the members. -/
@[elab_as_elim, induction_eliminator]
theorem induction {P : Tree → Prop} (null : P null) (bool : ∀ b, P (bool b))
    (number : ∀ n, P (number n)) (string : ∀ letters, P (string letters))
    (array : ∀ items inner, (∀ i ∈ items, P i.token) → P (array items inner))
    (object : ∀ members inner, (∀ m ∈ members, P m.2.token) → P (object members inner)) :
    ∀ t, P t
  | .null => null
  | .bool b => bool b
  | .number n => number n
  | .string letters => string letters
  | .array items inner => array items inner fun i _ =>
    induction null bool number string array object i.token
  | .object members inner => object members inner fun m _ =>
    induction null bool number string array object m.2.token
termination_by t => sizeOf t
decreasing_by
  · exact token_lt_array ‹_› inner
  · exact token_lt_object ‹_› inner

end Tree

end SmokeProbe.Json
