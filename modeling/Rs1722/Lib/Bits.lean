/-
# `Rs1722.Lib.Bits` — numbers and bytes as bit strings, most significant bit first

The order in which a big-endian bit stream carries a field.  `natBits n v` is the `n`-bit
field holding `v`; `bitsNat` reads a field back; `bytesBits` is a byte string as the bits
it carries on the wire.

    bitsNat (natBits n v) = v % 2 ^ n                       (`bitsNat_natBits`)
    natBits bs.length (bitsNat bs) = bs                     (`natBits_bitsNat`)
    fields of one width and one content hold one value      (`natBits_inj`)
    bytesBits (bitsBytes n bs) = bs.take (8 * n)             (`bytesBits_bitsBytes`)
-/
import Mathlib.Data.Nat.Bitwise
import Mathlib.Data.List.Basic
import Mathlib.Tactic.Ring

namespace Lib

/-! ## Fields -/

/-- The `n` low bits of `v`, most significant first. -/
def natBits : Nat → Nat → List Bool
  | 0, _ => []
  | n + 1, v => v.testBit n :: natBits n v

def bitsNat (bs : List Bool) : Nat :=
  bs.foldl (fun acc b => 2 * acc + b.toNat) 0

@[simp] theorem natBits_length : ∀ n v : Nat, (natBits n v).length = n
  | 0, _ => rfl
  | n + 1, v => by simp [natBits, natBits_length n v]

theorem foldl_bits (bs : List Bool) (acc : Nat) :
    bs.foldl (fun acc b => 2 * acc + b.toNat) acc = acc * 2 ^ bs.length + bitsNat bs := by
  induction bs generalizing acc with
  | nil => simp [bitsNat]
  | cons b bs ih =>
      have h0 : bitsNat (b :: bs) = b.toNat * 2 ^ bs.length + bitsNat bs := by
        simp only [bitsNat, List.foldl_cons] at ih ⊢
        rw [ih]
        simp
      rw [List.foldl_cons, ih, h0, List.length_cons, pow_succ]
      ring

theorem bitsNat_cons (b : Bool) (bs : List Bool) :
    bitsNat (b :: bs) = b.toNat * 2 ^ bs.length + bitsNat bs := by
  simpa [bitsNat] using foldl_bits bs (2 * 0 + b.toNat)

theorem bitsNat_lt (bs : List Bool) : bitsNat bs < 2 ^ bs.length := by
  induction bs with
  | nil => simp [bitsNat]
  | cons b bs ih =>
      rw [bitsNat_cons, List.length_cons, pow_succ]
      cases b <;> simp <;> omega

theorem bitsNat_natBits (n v : Nat) : bitsNat (natBits n v) = v % 2 ^ n := by
  induction n with
  | zero => simp [natBits, bitsNat, Nat.mod_one]
  | succ n ih =>
      rw [natBits, bitsNat_cons, natBits_length, ih, Nat.mod_pow_succ, Nat.toNat_testBit]
      ring

theorem testBit_bitsNat_cons (b : Bool) (bs : List Bool) :
    (bitsNat (b :: bs)).testBit bs.length = b := by
  rw [bitsNat_cons, Nat.mul_comm, Nat.testBit_two_pow_mul_add _ (bitsNat_lt bs)]
  cases b <;> simp

theorem natBits_mod (n v : Nat) : natBits n (v % 2 ^ n) = natBits n v := by
  have key : ∀ m k, k ≤ m → natBits k (v % 2 ^ m) = natBits k v := by
    intro m k hk
    induction k with
    | zero => rfl
    | succ k ih =>
        have hlt : k < m := hk
        rw [natBits, natBits, ih (Nat.le_of_lt hlt), Nat.testBit_mod_two_pow]
        simp [hlt]
  exact key n n le_rfl

theorem natBits_append (m n v : Nat) :
    natBits (m + n) v = natBits m (v / 2 ^ n) ++ natBits n v := by
  induction m with
  | zero =>
      rw [Nat.zero_add]
      rfl
  | succ m ih =>
      rw [Nat.succ_add, natBits, natBits, ih, Nat.testBit_div_two_pow]
      rfl

theorem natBits_eq_iff {n v w : Nat} : natBits n v = natBits n w ↔ v % 2 ^ n = w % 2 ^ n := by
  constructor
  · intro h
    rw [← bitsNat_natBits, ← bitsNat_natBits, h]
  · intro h
    rw [← natBits_mod n v, h, natBits_mod]

theorem natBits_inj {n v w : Nat} (hv : v < 2 ^ n) (hw : w < 2 ^ n)
    (h : natBits n v = natBits n w) : v = w := by
  have := natBits_eq_iff.mp h
  rwa [Nat.mod_eq_of_lt hv, Nat.mod_eq_of_lt hw] at this

/-- Writing back the number a bit string spells gives the bit string. -/
theorem natBits_bitsNat (bs : List Bool) : natBits bs.length (bitsNat bs) = bs := by
  induction bs with
  | nil => rfl
  | cons b bs ih =>
      rw [List.length_cons, natBits, testBit_bitsNat_cons]
      have htail : natBits bs.length (bitsNat (b :: bs)) = natBits bs.length (bitsNat bs) := by
        rw [natBits_eq_iff, bitsNat_cons]
        simp
      rw [htail, ih]

/-! ## Byte strings -/

def byteBits (b : UInt8) : List Bool := natBits 8 b.toNat

def bytesBits (bs : List UInt8) : List Bool := bs.flatMap byteBits

@[simp] theorem byteBits_length (b : UInt8) : (byteBits b).length = 8 := natBits_length 8 _

@[simp] theorem bytesBits_nil : bytesBits [] = [] := rfl

@[simp] theorem bytesBits_cons (b : UInt8) (bs : List UInt8) :
    bytesBits (b :: bs) = byteBits b ++ bytesBits bs := rfl

@[simp] theorem bytesBits_append (as bs : List UInt8) :
    bytesBits (as ++ bs) = bytesBits as ++ bytesBits bs := List.flatMap_append

@[simp] theorem bytesBits_length (bs : List UInt8) : (bytesBits bs).length = 8 * bs.length := by
  induction bs with
  | nil => rfl
  | cons b bs ih =>
      rw [bytesBits_cons, List.length_append, byteBits_length, ih, List.length_cons]
      omega

theorem byteBits_inj {a b : UInt8} (h : byteBits a = byteBits b) : a = b :=
  UInt8.toNat_inj.mp (natBits_inj a.toNat_lt b.toNat_lt h)

theorem bytesBits_inj : ∀ {as bs : List UInt8}, bytesBits as = bytesBits bs → as = bs
  | [], [], _ => rfl
  | [], b :: bs, h => by
      have := congrArg List.length h
      simp at this
      omega
  | a :: as, [], h => by
      have := congrArg List.length h
      simp at this
  | a :: as, b :: bs, h => by
      rw [bytesBits_cons, bytesBits_cons] at h
      obtain ⟨h1, h2⟩ := List.append_inj h (by simp)
      rw [byteBits_inj h1, bytesBits_inj h2]

def bitsByte (bs : List Bool) : UInt8 := UInt8.ofNat (bitsNat bs)

theorem byteBits_bitsByte {bs : List Bool} (h : bs.length = 8) : byteBits (bitsByte bs) = bs := by
  have hlt : bitsNat bs < 2 ^ 8 := by
    have := bitsNat_lt bs
    rwa [h] at this
  have hv : (bitsByte bs).toNat = bitsNat bs := by
    rw [bitsByte, UInt8.toNat_ofNat']
    exact Nat.mod_eq_of_lt hlt
  rw [byteBits, hv]
  have := natBits_bitsNat bs
  rwa [h] at this

/-- The `n` bytes a bit string starts with. -/
def bitsBytes : Nat → List Bool → List UInt8
  | 0, _ => []
  | n + 1, bs => bitsByte (bs.take 8) :: bitsBytes n (bs.drop 8)

@[simp] theorem bitsBytes_length : ∀ (n : Nat) (bs : List Bool), (bitsBytes n bs).length = n
  | 0, _ => rfl
  | n + 1, bs => by rw [bitsBytes, List.length_cons, bitsBytes_length n]

theorem bytesBits_bitsBytes : ∀ (n : Nat) {bs : List Bool}, 8 * n ≤ bs.length →
    bytesBits (bitsBytes n bs) = bs.take (8 * n)
  | 0, bs, _ => by simp [bitsBytes]
  | n + 1, bs, h => by
      have h8 : (bs.take 8).length = 8 := by
        rw [List.length_take]
        omega
      have hdrop : 8 * n ≤ (bs.drop 8).length := by
        rw [List.length_drop]
        omega
      have hsum : 8 * (n + 1) = 8 + 8 * n := by ring
      rw [bitsBytes, bytesBits_cons, byteBits_bitsByte h8, bytesBits_bitsBytes n hdrop, hsum,
        List.take_add]

theorem bytesBits_bitsBytes_eq {n : Nat} {bs : List Bool} (h : bs.length = 8 * n) :
    bytesBits (bitsBytes n bs) = bs := by
  rw [bytesBits_bitsBytes n (by omega), ← h, List.take_length]

/-- The unsigned field of `n` bits that starts `off` bits into a byte string. -/
def bitField (bytes : List UInt8) (off n : Nat) : Nat :=
  bitsNat (((bytesBits bytes).drop off).take n)

/-- A field of a known layout holds what was put there. -/
theorem bitField_eq {bytes : List UInt8} {pre : List Bool} {off n v : Nat}
    (hoff : pre.length = off) (hv : v < 2 ^ n) (post : List Bool)
    (h : bytesBits bytes = pre ++ (natBits n v ++ post)) : bitField bytes off n = v := by
  rw [bitField, h, List.drop_left' hoff, List.take_left' (natBits_length n v), bitsNat_natBits,
    Nat.mod_eq_of_lt hv]

end Lib
