/-
# `Rs1722.Lib.Decimal` — `Display` for numbers

What `{}`, `{:0w}` and `{:02x}` make of an integer, beside `FromStr` in `Lib.Number`:

    decimal digits are read as the number they were made of      (`parseDigits_natText`)
    so are padded ones, and those after other digits             (`digitsFrom_paddedText`)
    a number is its text, signed ones too                        (`natText_inj`, `intText_inj`)
-/
import Rs1722.Lib.Number

namespace Lib

/-- `{}` for an unsigned integer. -/
def natText (n : Nat) : Text := Nat.toDigits 10 n

/-- `{}` for a signed integer. -/
def intText (x : Int) : Text := if x < 0 then '-' :: natText x.natAbs else natText x.natAbs

/-- `{:0w}` for an unsigned integer. -/
def paddedText (width n : Nat) : Text :=
  List.replicate (width - (natText n).length) '0' ++ natText n

/-- `{:02x}` for an unsigned integer. -/
def hexText (n : Nat) : Text :=
  List.replicate (2 - (Nat.toDigits 16 n).length) '0' ++ Nat.toDigits 16 n

/-! ## Digits -/

def Digits (s : Text) : Prop := ∀ c ∈ s, c.isDigit = true

theorem digits_append {s t : Text} : Digits (s ++ t) ↔ Digits s ∧ Digits t :=
  List.forall_mem_append

theorem digits_natText (n : Nat) : Digits (natText n) :=
  fun _ hc => Nat.isDigit_of_mem_toDigits (by decide) (by decide) hc

theorem digits_paddedText (width n : Nat) : Digits (paddedText width n) := by
  refine digits_append.mpr ⟨fun c hc => ?_, digits_natText n⟩
  obtain rfl := List.eq_of_mem_replicate hc
  rfl

theorem natText_ne_nil (n : Nat) : natText n ≠ [] := Nat.toDigits_ne_nil

theorem toDigit_of_isDigit {c : Char} (h : c.isDigit = true) :
    toDigit c = some (c.toNat - '0'.toNat) := by
  obtain ⟨hlow, hhigh⟩ := Char.isDigit_iff_toNat.mp h
  exact if_pos ⟨hlow, hhigh⟩

theorem digitsFrom_of_digits {s : Text} (h : Digits s) (n : Nat) :
    digitsFrom n s = some (Nat.ofDigitChars 10 s n) := by
  induction s generalizing n with
  | nil => rfl
  | cons c s ih =>
      obtain ⟨hc, hs⟩ := List.forall_mem_cons.mp h
      unfold digitsFrom
      rw [toDigit_of_isDigit hc, Option.bind_some, ih hs, Nat.ofDigitChars_cons]

theorem parseDigits_natText (n : Nat) : parseDigits (natText n) = some n := by
  unfold parseDigits
  rw [if_neg (natText_ne_nil n), digitsFrom_of_digits (digits_natText n)]
  exact congrArg some Nat.ofDigitChars_ten_toDigits

theorem paddedText_length {width n : Nat} (hpos : 0 < width) (h : n < 10 ^ width) :
    (paddedText width n).length = width := by
  have hle : (natText n).length ≤ width := (Nat.length_toDigits_le_iff (by decide) hpos).mpr h
  unfold paddedText
  rw [List.length_append, List.length_replicate]
  omega

/-- Padded digits after `m` are read as `m`, moved by their number, and what was padded. -/
theorem digitsFrom_paddedText {width n : Nat} (hpos : 0 < width) (h : n < 10 ^ width) (m : Nat) :
    digitsFrom m (paddedText width n) = some (m * 10 ^ width + n) := by
  have hzeros : Nat.ofDigitChars 10 (paddedText width n) 0 = n := by
    unfold paddedText
    rw [Nat.ofDigitChars_append, Nat.ofDigitChars_replicate_zero, Nat.mul_zero]
    exact Nat.ofDigitChars_ten_toDigits
  rw [digitsFrom_of_digits (digits_paddedText width n), Nat.ofDigitChars_eq_ofDigitChars_zero,
    hzeros, paddedText_length hpos h, Nat.mul_comm]

theorem natText_inj {m n : Nat} : natText m = natText n ↔ m = n := by
  refine ⟨fun h => ?_, congrArg natText⟩
  have hparse := congrArg parseDigits h
  rw [parseDigits_natText, parseDigits_natText] at hparse
  exact Option.some.inj hparse

theorem paddedText_inj {width m n : Nat} (hpos : 0 < width) (hm : m < 10 ^ width)
    (hn : n < 10 ^ width) : paddedText width m = paddedText width n ↔ m = n := by
  refine ⟨fun h => ?_, congrArg _⟩
  have hread := congrArg (digitsFrom 0) h
  rw [digitsFrom_paddedText hpos hm, digitsFrom_paddedText hpos hn] at hread
  have hsum := Option.some.inj hread
  omega

/-! ## Signs -/

theorem natText_ne_minus {n : Nat} {s : Text} : natText n ≠ '-' :: s := by
  intro h
  have hdigit : ('-').isDigit = true := digits_natText n _ (h ▸ List.mem_cons_self)
  exact absurd hdigit (by decide)

theorem intText_inj {x y : Int} : intText x = intText y ↔ x = y := by
  refine ⟨fun h => ?_, congrArg intText⟩
  unfold intText at h
  split at h <;> split at h
  · have habs := natText_inj.mp (List.cons.inj h).2
    omega
  · exact absurd h.symm natText_ne_minus
  · exact absurd h natText_ne_minus
  · have habs := natText_inj.mp h
    omega

theorem mem_intText {x : Int} {c : Char} (h : c ∈ intText x) : c = '-' ∨ c.isDigit = true := by
  unfold intText at h
  split at h
  · rcases List.mem_cons.mp h with h | h
    · exact Or.inl h
    · exact Or.inr (digits_natText _ c h)
  · exact Or.inr (digits_natText _ c h)

example : intText (-40) = "-40".toList := by decide
example : paddedText 9 500 = "000000500".toList := by decide
example : hexText 0x0a = "0a".toList := by decide

end Lib
