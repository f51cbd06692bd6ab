import Mathlib.Data.List.Basic

/-!
# Bytes in hexadecimal digits

Two digits for each byte, high half first, as `%02x` and `%02X` print them, and reading them
back.
-/

namespace Hex

/-- A digit, with letters in upper or lower case. -/
def digit (upper : Bool) (n : Nat) : Char :=
  Char.ofNat (if n < 10 then 48 + n else if upper then 55 + n else 87 + n)

/-- The value of a digit in either case. -/
def value (c : Char) : Nat :=
  if c.toNat < 58 then c.toNat - 48 else if c.toNat < 71 then c.toNat - 55 else c.toNat - 87

/-- The two digits of a byte. -/
def byte (upper : Bool) (b : UInt8) : List Char :=
  [digit upper (b.toNat / 16), digit upper (b.toNat % 16)]

/-- The digits of bytes. -/
def text (upper : Bool) (bytes : List UInt8) : List Char := bytes.flatMap (byte upper)

/-- The bytes that digits stand for. -/
def read : List Char → List UInt8
  | high :: low :: rest => UInt8.ofNat (16 * value high + value low) :: read rest
  | _ => []

theorem value_digit (upper : Bool) : ∀ n < 16, value (digit upper n) = n := by
  cases upper <;> decide

theorem byte_value (upper : Bool) (b : UInt8) :
    UInt8.ofNat (16 * value (digit upper (b.toNat / 16)) +
      value (digit upper (b.toNat % 16))) = b := by
  have hlt := b.toNat_lt
  rw [value_digit upper _ (by omega), value_digit upper _ (Nat.mod_lt _ (by decide)),
    Nat.div_add_mod]
  exact UInt8.ofNat_toNat

/-- Reading what has been printed. -/
theorem read_text (upper : Bool) (bytes : List UInt8) : read (text upper bytes) = bytes := by
  induction bytes with
  | nil => rfl
  | cons b bytes ih =>
    show UInt8.ofNat _ :: read (text upper bytes) = _
    rw [ih, byte_value]

end Hex
