/-
# `Rs1722.Lib.Number` — `FromStr` for numbers

`str::parse` to the integer types and to `f64`, as the standard library documents them.  An
integer is an optional sign (`-` for the signed types only) and decimal digits, and it is in the
range of its type.  For `f64` the text decides a literal; which of the representable numbers the
literal is rounded to is left to a parameter of whoever uses it.
-/
import Rs1722.Lib.MachineInt
import Rs1722.Lib.Text

namespace Lib

/-! ## Integers -/

/-- `char::to_digit(10)`. -/
def toDigit (c : Char) : Option Nat :=
  if '0' ≤ c ∧ c ≤ '9' then some (c.toNat - '0'.toNat) else none

/-- The number that starts with the digits of `n`. -/
def digitsFrom (n : Nat) : Text → Option Nat
  | [] => some n
  | c :: s => (toDigit c).bind fun d => digitsFrom (10 * n + d) s

def parseDigits (s : Text) : Option Nat :=
  if s = [] then none else digitsFrom 0 s

/-- `FromStr` for the unsigned type of `w` bits. -/
def parseUnsigned (w : Nat) (s : Text) : Option (Fin (2 ^ w)) := do
  let n ← match s with
    | '+' :: digits => parseDigits digits
    | digits => parseDigits digits
  if h : n < 2 ^ w then some ⟨n, h⟩ else none

/-- A value of the signed type of `w + 1` bits. -/
abbrev SignedInt (w : Nat) := {x : Int // InSigned w x}

/-- `FromStr` for the signed type of `w + 1` bits. -/
def parseSigned (w : Nat) (s : Text) : Option (SignedInt w) := do
  let x ← match s with
    | '+' :: digits => (parseDigits digits).map fun n => (n : Int)
    | '-' :: digits => (parseDigits digits).map fun n => -(n : Int)
    | digits => (parseDigits digits).map fun n => (n : Int)
  if h : InSigned w x then some ⟨x, h⟩ else none

/-! ## Floating point -/

/-- What a text says of an `f64`: a sign, and not a number, infinite, or `digits · 10 ^ exponent`. -/
inductive FloatLiteral where
  | nan (negative : Bool)
  | infinity (negative : Bool)
  | decimal (negative : Bool) (digits : Nat) (exponent : Int)
  deriving DecidableEq, Repr

def splitSign : Text → Bool × Text
  | '+' :: s => (false, s)
  | '-' :: s => (true, s)
  | s => (false, s)

def parseExponent : Text → Option Int
  | [] => some 0
  | c :: s =>
      if c = 'e' ∨ c = 'E' then
        let (negative, digits) := splitSign s
        (parseDigits digits).map fun n => if negative then -(n : Int) else n
      else none

/-- `FromStr for f64`, up to rounding. -/
def parseFloat (s : Text) : Option FloatLiteral :=
  let (negative, s) := splitSign s
  let lower := s.map Char.toLower
  if lower = "nan".toList then some (.nan negative)
  else if lower = "inf".toList ∨ lower = "infinity".toList then some (.infinity negative)
  else
    let whole := s.takeWhile fun c => (toDigit c).isSome
    let (fraction, rest) := match s.drop whole.length with
      | '.' :: s => (s.takeWhile fun c => (toDigit c).isSome,
          s.dropWhile fun c => (toDigit c).isSome)
      | s => ([], s)
    do
      let digits ← parseDigits (whole ++ fraction)
      let exponent ← parseExponent rest
      return .decimal negative digits (exponent - fraction.length)

example : parseFloat "-12.50e3".toList = some (.decimal true 1250 1) := by decide
example : parseSigned 7 "-128".toList = some ⟨-128, by decide⟩ := by decide
example : parseUnsigned 8 "-1".toList = none := by decide

end Lib
