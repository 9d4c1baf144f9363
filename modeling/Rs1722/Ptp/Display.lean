/-
# `Rs1722.Ptp.Display` — a timestamp in words

`Display` for `PtpTime` in `src/ptp_phc/time.rs`: the seconds, a point, and nine digits of
nanoseconds.  The fraction is added to the seconds also where these are negative, and the text does
not say so:

    two times with the same text are the same time              (`text_inj`)
    the text is the time, read as a decimal number, exactly
    where the seconds are not negative or are whole             (`text_value_iff`)
-/
import Rs1722.Lib.Decimal
import Rs1722.Lib.Separated
import Rs1722.Ptp.Time

namespace Rs1722

open Lib

namespace PtpTime

/-- `Display` for `PtpTime`: `{}.{:09}`. -/
def text (p : PtpTime) : Text := intText p.seconds ++ '.' :: paddedText 9 p.nanoseconds

variable {p q : PtpTime}

theorem nanoseconds_lt_pow (p : PtpTime) : p.nanoseconds < 10 ^ 9 := p.nanoseconds_lt

theorem mem_text {c : Char} (h : c ∈ p.text) : c = '-' ∨ c = '.' ∨ c.isDigit = true := by
  rcases List.mem_append.mp h with h | h
  · rcases mem_intText h with h | h
    · exact Or.inl h
    · exact Or.inr (Or.inr h)
  · rcases List.mem_cons.mp h with h | h
    · exact Or.inr (Or.inl h)
    · exact Or.inr (Or.inr (digits_paddedText _ _ c h))

theorem text_inj : p.text = q.text ↔ p = q := by
  refine ⟨fun h => ?_, congrArg _⟩
  have hfields (p : PtpTime) : ∀ field ∈ [intText p.seconds, paddedText 9 p.nanoseconds],
      '.' ∉ field := by
    simp only [List.forall_mem_cons]
    refine ⟨fun hpoint => ?_, fun hpoint => ?_, fun _ h => absurd h List.not_mem_nil⟩
    · rcases mem_intText hpoint with h | h
      · exact absurd h (by decide)
      · exact absurd h (by decide)
    · exact absurd (digits_paddedText _ _ _ hpoint) (by decide)
  have hsame := (separated_inj (hfields p) (hfields q) (List.cons_ne_nil _ _)
    (List.cons_ne_nil _ _)).mp (by
      rw [separated_cons (List.cons_ne_nil _ _), separated_cons (List.cons_ne_nil _ _)]
      simpa [text, separated] using h)
  obtain ⟨hseconds, hrest⟩ := List.cons.inj hsame
  exact PtpTime.ext (intText_inj.mp hseconds)
    ((paddedText_inj (by decide) p.nanoseconds_lt_pow q.nanoseconds_lt_pow).mp
      (List.cons.inj hrest).1)

/-! ## Read as a number -/

theorem toDigit_isSome_of_isDigit {c : Char} (h : c.isDigit = true) : (toDigit c).isSome = true := by
  rw [toDigit_of_isDigit h]
  rfl

/-- Digits, a point and nine digits are read as one number, whose point is moved. -/
theorem parseFloat_unsigned (seconds nanoseconds : Nat) (h : nanoseconds < 10 ^ 9) (negative : Bool)
    (s : Text) (hsign : splitSign s = (negative, natText seconds ++ '.' :: paddedText 9 nanoseconds)) :
    parseFloat s = some (.decimal negative (seconds * 10 ^ 9 + nanoseconds) (-9)) := by
  have hwhole : ∀ c ∈ natText seconds, (toDigit c).isSome = true :=
    fun c hc => toDigit_isSome_of_isDigit (digits_natText _ c hc)
  have hfraction : ∀ c ∈ paddedText 9 nanoseconds, (toDigit c).isSome = true :=
    fun c hc => toDigit_isSome_of_isDigit (digits_paddedText _ _ c hc)
  have hpoint : '.' ∈ (natText seconds ++ '.' :: paddedText 9 nanoseconds).map Char.toLower :=
    List.mem_map.mpr ⟨'.', List.mem_append_right _ List.mem_cons_self, rfl⟩
  have hword {word : Text} (hno : '.' ∉ word) :
      (natText seconds ++ '.' :: paddedText 9 nanoseconds).map Char.toLower ≠ word :=
    fun heq => hno (heq ▸ hpoint)
  have htake : (natText seconds ++ '.' :: paddedText 9 nanoseconds).takeWhile
      (fun c => (toDigit c).isSome) = natText seconds := by
    rw [List.takeWhile_append_of_pos hwhole, List.takeWhile_cons_of_neg (by decide),
      List.append_nil]
  have hdigits : parseDigits (natText seconds ++ paddedText 9 nanoseconds) =
      some (seconds * 10 ^ 9 + nanoseconds) := by
    have hread : digitsFrom seconds (paddedText 9 nanoseconds) =
        some (seconds * 10 ^ 9 + nanoseconds) := digitsFrom_paddedText (by decide) h seconds
    have hall : Digits (natText seconds ++ paddedText 9 nanoseconds) :=
      digits_append.mpr ⟨digits_natText _, digits_paddedText _ _⟩
    have hseconds : Nat.ofDigitChars 10 (natText seconds) 0 = seconds :=
      Nat.ofDigitChars_ten_toDigits
    unfold parseDigits
    rw [if_neg (List.append_ne_nil_of_left_ne_nil (natText_ne_nil _) _), digitsFrom_of_digits hall,
      Nat.ofDigitChars_append, hseconds, ← digitsFrom_of_digits (digits_paddedText _ _), hread]
  unfold parseFloat
  rw [hsign]
  dsimp only
  rw [if_neg (hword (by decide)), if_neg (not_or.mpr ⟨hword (by decide), hword (by decide)⟩), htake,
    List.drop_left]
  show (do
    let digits ← parseDigits (natText seconds ++
      (paddedText 9 nanoseconds).takeWhile fun c => (toDigit c).isSome)
    let exponent ← parseExponent ((paddedText 9 nanoseconds).dropWhile fun c => (toDigit c).isSome)
    return FloatLiteral.decimal negative digits (exponent -
      ((paddedText 9 nanoseconds).takeWhile fun c => (toDigit c).isSome).length)) = _
  rw [List.takeWhile_eq_self_iff.mpr hfraction, List.dropWhile_eq_nil_iff.mpr hfraction, hdigits,
    paddedText_length (by decide) h]
  rfl

/-- The number that a decimal literal without an exponent of its own says. -/
def signedDigits (negative : Bool) (digits : Nat) : Int := if negative then -digits else digits

/-- The text of a time reads as a number of nanoseconds, with the sign of the seconds, and that is
the time exactly where the seconds are not negative, or there are no nanoseconds. -/
theorem text_value_iff (p : PtpTime) : ∃ digits,
    parseFloat p.text = some (.decimal (decide (p.seconds < 0)) digits (-9)) ∧
      (signedDigits (decide (p.seconds < 0)) digits = p.asNanos ↔
        0 ≤ p.seconds ∨ p.nanoseconds = 0) := by
  refine ⟨p.seconds.natAbs * 10 ^ 9 + p.nanoseconds,
    parseFloat_unsigned p.seconds.natAbs p.nanoseconds p.nanoseconds_lt_pow _ p.text ?_, ?_⟩
  · unfold text intText
    by_cases hneg : p.seconds < 0
    · rw [if_pos hneg, decide_eq_true hneg]
      rfl
    · -- the first digit is no sign
      rw [if_neg hneg, decide_eq_false hneg]
      obtain ⟨c, digits, hc⟩ := List.exists_cons_of_ne_nil (natText_ne_nil p.seconds.natAbs)
      have hdigit : c.isDigit = true := digits_natText p.seconds.natAbs c (hc ▸ List.mem_cons_self)
      rw [hc, List.cons_append]
      unfold splitSign
      split
      · rename_i heq
        obtain rfl := (List.cons.inj heq).1
        exact absurd hdigit (by decide)
      · rename_i heq
        obtain rfl := (List.cons.inj heq).1
        exact absurd hdigit (by decide)
      · rfl
  · have hnanos := p.nanoseconds_lt
    rw [asNanos_eq]
    unfold signedDigits
    unfold nsPerSec at hnanos ⊢
    by_cases hneg : p.seconds < 0
    · rw [decide_eq_true hneg, if_pos rfl]
      omega
    · rw [decide_eq_false hneg, if_neg Bool.false_ne_true]
      omega

example : (⟨-1, 500000000, by decide, by decide⟩ : PtpTime).text = "-1.500000000".toList := by decide

end PtpTime

end Rs1722
