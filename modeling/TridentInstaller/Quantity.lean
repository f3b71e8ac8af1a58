import Mathlib.Data.Int.Defs
import Mathlib.Order.Basic
import Mathlib.Algebra.Group.Nat.Basic
set_option autoImplicit false

/-!
# Quantities

`installTrident` checks `--volume-size` with `resource.ParseQuantity`, a library
function the model takes from the environment (`Env.parseQuantity`).  This module gives
the quantities it returns, as exact fractions, and the parser of the grammar the library
documents, with which the sample environments answer.  The library's own scanner also
reads `-`, `.` and a bare suffix as zero and rounds sub-nano amounts up; no sample size
exercises either.
-/

namespace TridentInstaller

/-- How a quantity was written; `Quantity.String()` writes it back in the same form. -/
inductive Format where
  | decimalExponent
  | binarySI
  | decimalSI
  deriving DecidableEq, Repr, Inhabited

/-- A parsed quantity: the exact value `num / den`, and its format.  The denominator
is positive by construction. -/
structure Quantity where
  num : Int
  den : Nat
  den_pos : 0 < den
  format : Format
  deriving DecidableEq

namespace Quantity

/-- `Quantity.Cmp`: the sign of the difference, by cross-multiplication. -/
def cmp (q r : Quantity) : Ordering :=
  compare (q.num * r.den) (r.num * q.den)

/-- A quantity is strictly positive when its numerator is. -/
def IsPositive (q : Quantity) : Prop := 0 < q.num

instance (q : Quantity) : Decidable q.IsPositive :=
  inferInstanceAs (Decidable (0 < q.num))

/-- `ErrFormatWrong`, the parser's message for a string outside the grammar. -/
def errFormatWrong : String :=
  "quantities must match the regular expression '^([+-]?[0-9.]+)([eEinumkKMGTP]*[-+]?[0-9]*)$'"

/-- `ErrSuffix`, the parser's message for a well-shaped but unknown suffix. -/
def errSuffix : String := "unable to parse quantity's suffix"

/-- Split off the leading decimal digits. -/
def spanDigits (s : List Char) : List Char × List Char :=
  (s.takeWhile Char.isDigit, s.dropWhile Char.isDigit)

/-- The value of a string of decimal digits. -/
def digitsValue (ds : List Char) : Nat :=
  ds.foldl (fun n c => 10 * n + (c.toNat - '0'.toNat)) 0

/-- `<sign>`: an optional `+` or `-`; the flag says whether the number is negated. -/
def parseSign : List Char → Bool × List Char
  | '-' :: rest => (true, rest)
  | '+' :: rest => (false, rest)
  | s => (false, s)

/-- `<number>`: digits with an optional fraction, at least one digit in all.  The
result is the numerator over `10 ^ (number of fraction digits)`, and the rest of
the input. -/
def parseNumber (s : List Char) : Option (Nat × Nat × List Char) :=
  match spanDigits s with
  | (whole, '.' :: afterDot) =>
      let (frac, rest) := spanDigits afterDot
      if whole.isEmpty && frac.isEmpty then none
      else some (digitsValue whole * 10 ^ frac.length + digitsValue frac, frac.length, rest)
  | (whole, rest) => if whole.isEmpty then none else some (digitsValue whole, 0, rest)

/-- The suffix characters the implementation lets through to the suffix table,
`[eEinumkKMGTP]*[-+]?[0-9]*`; anything else is `ErrFormatWrong`. -/
def suffixShaped (s : List Char) : Bool :=
  let afterLetters := s.dropWhile (fun c => c ∈ "eEinumkKMGTP".toList)
  let afterSign := match afterLetters with
    | '+' :: r => r
    | '-' :: r => r
    | r => r
  afterSign.all Char.isDigit

/-- A suffix's multiplier as `(power of ten, power of two)`, and the format it selects. -/
def suffixScale : List Char → Option (Int × Nat × Format)
  | [] => some (0, 0, .decimalSI)
  | ['n'] => some (-9, 0, .decimalSI)
  | ['u'] => some (-6, 0, .decimalSI)
  | ['m'] => some (-3, 0, .decimalSI)
  | ['k'] => some (3, 0, .decimalSI)
  | ['M'] => some (6, 0, .decimalSI)
  | ['G'] => some (9, 0, .decimalSI)
  | ['T'] => some (12, 0, .decimalSI)
  | ['P'] => some (15, 0, .decimalSI)
  | ['E'] => some (18, 0, .decimalSI)
  | ['K', 'i'] => some (0, 10, .binarySI)
  | ['M', 'i'] => some (0, 20, .binarySI)
  | ['G', 'i'] => some (0, 30, .binarySI)
  | ['T', 'i'] => some (0, 40, .binarySI)
  | ['P', 'i'] => some (0, 50, .binarySI)
  | ['E', 'i'] => some (0, 60, .binarySI)
  | c :: exponent =>
      if c = 'e' ∨ c = 'E' then
        let (negative, rest) := parseSign exponent
        let (ds, tail) := spanDigits rest
        if ds.isEmpty || !tail.isEmpty then none
        else some ((if negative then -(digitsValue ds : Int) else digitsValue ds), 0, .decimalExponent)
      else none

/-- Assemble a quantity from its sign, digits, fraction length and suffix scale. -/
def assemble (negative : Bool) (digits fracLen : Nat) (ten : Int) (two : Nat)
    (format : Format) : Quantity where
  num := (if negative then -1 else 1) * (digits * 10 ^ ten.toNat * 2 ^ two : Nat)
  den := 10 ^ fracLen * 10 ^ (-ten).toNat
  den_pos := Nat.mul_pos (Nat.pos_pow_of_pos _ (by decide)) (Nat.pos_pow_of_pos _ (by decide))
  format := format

end Quantity

open Quantity

/-- The grammar after the sign: a number, then a suffix. -/
def parseUnsigned (negative : Bool) (rest : List Char) : Except String Quantity :=
  match parseNumber rest with
  | none => .error errFormatWrong
  | some (digits, fracLen, suffix) =>
      if !suffixShaped suffix then .error errFormatWrong
      else match suffixScale suffix with
        | none => .error errSuffix
        | some (ten, two, format) => .ok (assemble negative digits fracLen ten two format)

/-- The documented grammar of `resource.ParseQuantity`, read by the sample environments. -/
def documentedParseQuantity (str : String) : Except String Quantity :=
  match str.toList with
  | [] => .error errFormatWrong
  | chars => parseUnsigned (parseSign chars).1 (parseSign chars).2

/-- The installer's default size parses, to `2 * 2^30` bytes. -/
example : (documentedParseQuantity "2Gi").toOption.map (fun q => (q.num, q.den)) =
    some (2147483648, 1) := by
  decide

/-- `"0"` is zero, as `ParseQuantity`'s own special case has it. -/
theorem documentedParseQuantity_zero :
    documentedParseQuantity "0" = .ok (assemble false 0 0 0 0 .decimalSI) := rfl

end TridentInstaller
