/-
# `Rs1722.Lib.Endian` — little-endian integers

`to_le_bytes` and `from_le_bytes`, over natural numbers of a given number of bytes and at the
widths of `u16` and `u32`.  The two are inverse to each other:

    the bytes of a number that fits are read as the number     (`leNat_leBytes`)
    bytes are the bytes of the number they are read as         (`leBytes_leNat`)
-/
import Mathlib.Tactic.Common
import Mathlib.Algebra.Group.Nat.Defs

namespace Lib

/-- The `n` low bytes of `v`, the least significant first. -/
def leBytes : Nat → Nat → List UInt8
  | 0, _ => []
  | n + 1, v => UInt8.ofNat v :: leBytes n (v / 256)

def leNat : List UInt8 → Nat
  | [] => 0
  | x :: xs => x.toNat + 256 * leNat xs

@[simp] theorem leBytes_length (n v : Nat) : (leBytes n v).length = n := by
  induction n generalizing v with
  | zero => rfl
  | succ n ih => exact congrArg (· + 1) (ih (v / 256))

theorem leNat_leBytes {n v : Nat} (h : v < 256 ^ n) : leNat (leBytes n v) = v := by
  induction n generalizing v with
  | zero =>
      have hv : v = 0 := Nat.lt_one_iff.mp h
      rw [hv]
      rfl
  | succ n ih =>
      have hdiv : v / 256 < 256 ^ n := by
        rw [Nat.pow_succ] at h
        exact Nat.div_lt_of_lt_mul (by rwa [Nat.mul_comm])
      show (UInt8.ofNat v).toNat + 256 * leNat (leBytes n (v / 256)) = v
      rw [ih hdiv, UInt8.toNat_ofNat']
      exact Nat.mod_add_div v 256

theorem leNat_lt (bs : List UInt8) : leNat bs < 256 ^ bs.length := by
  induction bs with
  | nil => exact Nat.one_pos
  | cons x xs ih =>
      have hx : x.toNat < 256 := x.toNat_lt
      show x.toNat + 256 * leNat xs < 256 ^ (xs.length + 1)
      rw [Nat.pow_succ]
      omega

theorem leBytes_leNat (bs : List UInt8) : leBytes bs.length (leNat bs) = bs := by
  induction bs with
  | nil => rfl
  | cons x xs ih =>
      have hx : x.toNat < 256 := x.toNat_lt
      have hhead : UInt8.ofNat (x.toNat + 256 * leNat xs) = x := by
        apply UInt8.toNat_inj.mp
        rw [UInt8.toNat_ofNat']
        omega
      have htail : (x.toNat + 256 * leNat xs) / 256 = leNat xs := by omega
      show UInt8.ofNat (x.toNat + 256 * leNat xs) ::
        leBytes xs.length ((x.toNat + 256 * leNat xs) / 256) = x :: xs
      rw [hhead, htail, ih]

/-! ## `u16` and `u32` -/

/-- `u16::to_le_bytes`. -/
def u16ToLe (n : UInt16) : List UInt8 := leBytes 2 n.toNat

/-- `u16::from_le_bytes`. -/
def u16FromLe (bs : List UInt8) : UInt16 := .ofNat (leNat bs)

/-- `u32::to_le_bytes`. -/
def u32ToLe (n : UInt32) : List UInt8 := leBytes 4 n.toNat

/-- `u32::from_le_bytes`. -/
def u32FromLe (bs : List UInt8) : UInt32 := .ofNat (leNat bs)

/-- `u32::try_from` of a `usize`. -/
def u32TryFrom (n : Nat) : Option UInt32 := if n < 2 ^ 32 then some (.ofNat n) else none

/-- `u8::try_from` of a wider number. -/
def u8TryFrom (n : Nat) : Option UInt8 := if n < 2 ^ 8 then some (.ofNat n) else none

@[simp] theorem u16ToLe_length (n : UInt16) : (u16ToLe n).length = 2 := leBytes_length 2 _
@[simp] theorem u32ToLe_length (n : UInt32) : (u32ToLe n).length = 4 := leBytes_length 4 _

@[simp] theorem u16FromLe_toLe (n : UInt16) : u16FromLe (u16ToLe n) = n := by
  unfold u16FromLe u16ToLe
  rw [leNat_leBytes (n := 2) n.toNat_lt]
  exact UInt16.ofNat_toNat

@[simp] theorem u32FromLe_toLe (n : UInt32) : u32FromLe (u32ToLe n) = n := by
  unfold u32FromLe u32ToLe
  rw [leNat_leBytes (n := 4) n.toNat_lt]
  exact UInt32.ofNat_toNat

theorem u32ToLe_fromLe {bs : List UInt8} (h : bs.length = 4) : u32ToLe (u32FromLe bs) = bs := by
  have hlt : leNat bs < 2 ^ 32 := by
    have hbound := leNat_lt bs
    rwa [h] at hbound
  unfold u32ToLe u32FromLe
  rw [UInt32.toNat_ofNat_of_lt' hlt, ← h]
  exact leBytes_leNat bs

theorem u32TryFrom_of_lt {n : Nat} (h : n < 2 ^ 32) : u32TryFrom n = some (.ofNat n) := if_pos h

theorem u32_toNat_ofNat {n : Nat} (h : n < 2 ^ 32) : (UInt32.ofNat n).toNat = n :=
  UInt32.toNat_ofNat_of_lt' h

end Lib
