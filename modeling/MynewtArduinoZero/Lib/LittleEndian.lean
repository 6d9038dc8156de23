import Mathlib.Algebra.Group.Nat.Defs
import MynewtArduinoZero.Lib.Cells

/-!
# Little-endian words

`leBytes k n` is the low `k` bytes of `n`, low byte first, and `leValue` puts a
list of bytes together again.
-/

namespace LittleEndian

open Cells

/-- The low `k` bytes of `n`, low byte first. -/
def leBytes : (k : Nat) → (n : Nat) → List UInt8
  | 0, _ => []
  | k + 1, n => .ofNat n :: leBytes k (n / 256)

/-- The number a list of bytes stands for, low byte first. -/
def leValue : List UInt8 → Nat
  | [] => 0
  | b :: l => b.toNat + 256 * leValue l

@[simp] theorem length_leBytes : ∀ k n, (leBytes k n).length = k
  | 0, _ => rfl
  | k + 1, n => by rw [leBytes, List.length_cons, length_leBytes k]

theorem leValue_leBytes : ∀ k n, leValue (leBytes k n) = n % 256 ^ k
  | 0, n => by rw [leBytes, leValue, Nat.pow_zero, Nat.mod_one]
  | k + 1, n => by
      rw [leBytes, leValue, leValue_leBytes k, UInt8.toNat_ofNat', Nat.pow_succ' (n := k)]
      exact (Nat.mod_mul (a := 256)).symm

/-- A number that fits in `k` bytes is read back. -/
theorem leValue_leBytes_of_lt {k n : Nat} (h : n < 256 ^ k) : leValue (leBytes k n) = n := by
  rw [leValue_leBytes, Nat.mod_eq_of_lt h]

theorem leBytes_leValue : ∀ l : List UInt8, leBytes l.length (leValue l) = l
  | [] => rfl
  | b :: l => by
      have hb : b.toNat < 256 := b.toNat_lt
      have hlow : UInt8.ofNat (b.toNat + 256 * leValue l) = b :=
        UInt8.toNat_inj.mp (by rw [UInt8.toNat_ofNat']; omega)
      have hhigh : (b.toNat + 256 * leValue l) / 256 = leValue l := by omega
      rw [List.length_cons, leValue, leBytes, hlow, hhigh, leBytes_leValue l]

theorem leValue_lt : ∀ l : List UInt8, leValue l < 256 ^ l.length
  | [] => Nat.one_pos
  | b :: l => by
      have hb : b.toNat < 256 := b.toNat_lt
      have hl : leValue l < 256 ^ l.length := leValue_lt l
      rw [List.length_cons, leValue, Nat.pow_succ']
      omega

/-! ## Words put together -/

/-- A byte put above a number that does not reach it. -/
theorem toNat_or_shiftLeft (acc k : UInt32) (y : UInt8) (hk : k.toNat ≤ 24)
    (hacc : acc.toNat < 2 ^ k.toNat) :
    (acc ||| y.toUInt32 <<< k).toNat = acc.toNat + 2 ^ k.toNat * y.toNat := by
  have hy : y.toNat < 256 := y.toNat_lt
  have hmod : k.toNat % 32 = k.toNat := Nat.mod_eq_of_lt (by omega)
  have hpow : 2 ^ k.toNat ≤ 2 ^ 24 := Nat.pow_le_pow_right (by decide) hk
  have hfits : 2 ^ k.toNat * y.toNat < 2 ^ 32 :=
    calc 2 ^ k.toNat * y.toNat ≤ 2 ^ 24 * y.toNat := Nat.mul_le_mul_right _ hpow
      _ < 2 ^ 24 * 256 := by omega
      _ = 2 ^ 32 := by decide
  rw [UInt32.toNat_or, UInt32.toNat_shiftLeft, UInt8.toNat_toUInt32, hmod, Nat.shiftLeft_eq,
    Nat.mul_comm, Nat.mod_eq_of_lt hfits, Nat.or_comm, ← Nat.two_pow_add_eq_or_of_lt hacc,
    Nat.add_comm]

/-- Four bytes shifted to their places and put together. -/
theorem toNat_or_four (a b c d : UInt8) :
    (a.toUInt32 ||| b.toUInt32 <<< 8 ||| c.toUInt32 <<< 16 ||| d.toUInt32 <<< 24).toNat =
      leValue [a, b, c, d] := by
  have ha : a.toNat < 256 := a.toNat_lt
  have hb : b.toNat < 256 := b.toNat_lt
  have hc : c.toNat < 256 := c.toNat_lt
  have hab : (a.toUInt32 ||| b.toUInt32 <<< 8).toNat = a.toNat + 2 ^ 8 * b.toNat :=
    toNat_or_shiftLeft a.toUInt32 8 b (by decide) ha
  have habc : (a.toUInt32 ||| b.toUInt32 <<< 8 ||| c.toUInt32 <<< 16).toNat =
      a.toNat + 2 ^ 8 * b.toNat + 2 ^ 16 * c.toNat := by
    rw [← hab]
    refine toNat_or_shiftLeft _ 16 c (by decide) ?_
    rw [hab]
    show _ < 2 ^ 16
    omega
  have habcd := toNat_or_shiftLeft (a.toUInt32 ||| b.toUInt32 <<< 8 ||| c.toUInt32 <<< 16) 24 d
    (by decide) (by
      rw [habc]
      show _ < 2 ^ 24
      omega)
  rw [habcd, habc]
  simp only [leValue]
  show _ + 2 ^ 24 * _ = _
  omega

/-! ## Words in a memory -/

/-- The 16-bit word of `m` at `a`. -/
def le16At (m : Nat → UInt8) (a : Nat) : UInt16 := .ofNat (leValue (bytesAt m a 2))

/-- The 32-bit word of `m` at `a`. -/
def le32At (m : Nat → UInt8) (a : Nat) : UInt32 := .ofNat (leValue (bytesAt m a 4))

theorem le16At_toNat (m : Nat → UInt8) (a : Nat) :
    (le16At m a).toNat = leValue (bytesAt m a 2) := by
  have h := leValue_lt (bytesAt m a 2)
  rw [length_bytesAt] at h
  rw [le16At, UInt16.toNat_ofNat']
  exact Nat.mod_eq_of_lt h

theorem le32At_toNat (m : Nat → UInt8) (a : Nat) :
    (le32At m a).toNat = leValue (bytesAt m a 4) := by
  have h := leValue_lt (bytesAt m a 4)
  rw [length_bytesAt] at h
  rw [le32At, UInt32.toNat_ofNat']
  exact Nat.mod_eq_of_lt h

/-- The bytes of a word are the bytes it was read from. -/
theorem leBytes_le16At (m : Nat → UInt8) (a : Nat) :
    leBytes 2 (le16At m a).toNat = bytesAt m a 2 := by
  have h := leBytes_leValue (bytesAt m a 2)
  rwa [length_bytesAt, ← le16At_toNat] at h

theorem leBytes_le32At (m : Nat → UInt8) (a : Nat) :
    leBytes 4 (le32At m a).toNat = bytesAt m a 4 := by
  have h := leBytes_leValue (bytesAt m a 4)
  rwa [length_bytesAt, ← le32At_toNat] at h

/-- A number stored in two bytes is read as a word. -/
theorem le16At_toNat_of_bytesAt {m : Nat → UInt8} {a n : Nat} (hn : n < 2 ^ 16)
    (h : bytesAt m a 2 = leBytes 2 n) : (le16At m a).toNat = n := by
  rw [le16At_toNat, h, leValue_leBytes_of_lt hn]

theorem le16At_eq_of_bytesAt {m : Nat → UInt8} {a : Nat} {w : UInt16}
    (h : bytesAt m a 2 = leBytes 2 w.toNat) : le16At m a = w :=
  UInt16.toNat_inj.mp (le16At_toNat_of_bytesAt w.toNat_lt h)

theorem le32At_eq_of_bytesAt {m : Nat → UInt8} {a : Nat} {w : UInt32}
    (h : bytesAt m a 4 = leBytes 4 w.toNat) : le32At m a = w := by
  refine UInt32.toNat_inj.mp ?_
  rw [le32At_toNat, h, leValue_leBytes_of_lt w.toNat_lt]

end LittleEndian
