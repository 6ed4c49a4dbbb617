import SmokeProbe.Text.Base64

/-!
# What Base64 digits stand for

Four digits are three bytes, and fewer if the group is padded, which only the last one may be. Every
encoding is decoded to the bytes that were encoded, whatever is left over in the last group.
-/
namespace SmokeProbe.Text.Base64

/-- The value of a digit. The padding has none. -/
def value? (c : Char) : Option Nat :=
  if 'A' ≤ c ∧ c ≤ 'Z' then some (c.toNat - 65)
  else if 'a' ≤ c ∧ c ≤ 'z' then some (c.toNat - 97 + 26)
  else if '0' ≤ c ∧ c ≤ '9' then some (c.toNat - 48 + 52)
  else if c = '+' then some 62
  else if c = '/' then some 63
  else none

/-- The bytes of one group. What its last digit has beyond whole bytes is zero. -/
def group? (a b c d : Char) : Option (List UInt8) :=
  match value? a, value? b, value? c, value? d with
  | some x, some y, some z, some w =>
    some [UInt8.ofNat (x * 4 + y / 16), UInt8.ofNat (y % 16 * 16 + z / 4),
      UInt8.ofNat (z % 4 * 64 + w)]
  | some x, some y, some z, none =>
    if d = '=' ∧ z % 4 = 0 then
      some [UInt8.ofNat (x * 4 + y / 16), UInt8.ofNat (y % 16 * 16 + z / 4)]
    else none
  | some x, some y, none, none =>
    if c = '=' ∧ d = '=' ∧ y % 16 = 0 then some [UInt8.ofNat (x * 4 + y / 16)] else none
  | _, _, _, _ => none

/-- The bytes of groups of four digits, of which only the last one may be padded. -/
def decode? : List Char → Option (List UInt8)
  | [] => some []
  | a :: b :: c :: d :: rest => do
    let front ← group? a b c d
    let back ← decode? rest
    if front.length = 3 ∨ rest = [] then pure (front ++ back) else none
  | _ => none

theorem value?_digit : ∀ n < 64, value? (digit n) = some n := by decide

theorem group?_three (a b c : UInt8) :
    group? (digit (a.toNat / 4)) (digit (a.toNat % 4 * 16 + b.toNat / 16))
      (digit (b.toNat % 16 * 4 + c.toNat / 64)) (digit (c.toNat % 64)) = some [a, b, c] := by
  have ha := a.toNat_lt
  have hb := b.toNat_lt
  have hc := c.toNat_lt
  rw [group?, value?_digit _ (by omega), value?_digit _ (by omega), value?_digit _ (by omega),
    value?_digit _ (by omega)]
  have hfirst : a.toNat / 4 * 4 + (a.toNat % 4 * 16 + b.toNat / 16) / 16 = a.toNat := by omega
  have hsecond : (a.toNat % 4 * 16 + b.toNat / 16) % 16 * 16 +
      (b.toNat % 16 * 4 + c.toNat / 64) / 4 = b.toNat := by omega
  have hthird : (b.toNat % 16 * 4 + c.toNat / 64) % 4 * 64 + c.toNat % 64 = c.toNat := by omega
  simp only [hfirst, hsecond, hthird, UInt8.ofNat_toNat]

theorem group?_two (a b : UInt8) :
    group? (digit (a.toNat / 4)) (digit (a.toNat % 4 * 16 + b.toNat / 16))
      (digit (b.toNat % 16 * 4)) '=' = some [a, b] := by
  have ha := a.toNat_lt
  have hb := b.toNat_lt
  have hpad : value? '=' = none := rfl
  rw [group?, value?_digit _ (by omega), value?_digit _ (by omega), value?_digit _ (by omega), hpad]
  have hfirst : a.toNat / 4 * 4 + (a.toNat % 4 * 16 + b.toNat / 16) / 16 = a.toNat := by omega
  have hsecond : (a.toNat % 4 * 16 + b.toNat / 16) % 16 * 16 + b.toNat % 16 * 4 / 4 = b.toNat := by
    omega
  have hrest : b.toNat % 16 * 4 % 4 = 0 := by omega
  simp only [hfirst, hsecond, hrest, and_self, if_true, UInt8.ofNat_toNat]

theorem group?_one (a : UInt8) :
    group? (digit (a.toNat / 4)) (digit (a.toNat % 4 * 16)) '=' '=' = some [a] := by
  have ha := a.toNat_lt
  have hpad : value? '=' = none := rfl
  rw [group?, value?_digit _ (by omega), value?_digit _ (by omega), hpad]
  have hfirst : a.toNat / 4 * 4 + a.toNat % 4 * 16 / 16 = a.toNat := by omega
  have hrest : a.toNat % 4 * 16 % 16 = 0 := by omega
  simp only [hfirst, hrest, and_self, if_true, UInt8.ofNat_toNat]

theorem decode?_encode (bs : List UInt8) : decode? (encode bs) = some bs := by
  fun_induction encode bs with
  | case1 => rfl
  | case2 a => simp [decode?, group?_one]
  | case3 a b => simp [decode?, group?_two]
  | case4 a b c rest ih => simp [decode?, group?_three, ih]

end SmokeProbe.Text.Base64
