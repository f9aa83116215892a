import Traceability.Number.Integer
import Traceability.Text.LowerCase

/-! # Binary floating-point numbers

A finite number is a sign, a mantissa of at most 53 bits and a binary exponent, so that its value
is exact in integer arithmetic. A mantissa below `2^52` occurs with the least exponent only, and
each number thus has one form. Reading rounds to the nearest number, ties to the even mantissa;
writing gives the fewest digits that read back.
-/
namespace Traceability.Number

inductive Binary64
  | nan
  | infinite (negative : Bool)
  | finite (negative : Bool) (mantissa : Nat) (exponent : Int)
  deriving DecidableEq, Repr

namespace Binary64

def minExponent : Int := -1074

def maxExponent : Int := 971

def zero (negative : Bool) : Binary64 := .finite negative 0 minExponent

/-- Neither infinite nor undefined, and different from zero. -/
def isNonzero : Binary64 → Bool
  | .finite _ mantissa _ => mantissa != 0
  | _ => true

/-- The quotient rounded to the nearest integer, a tie to the even one. -/
def roundedQuotient (num den : Nat) : Nat :=
  let q := num / den
  let twice := 2 * (num % den)
  if den < twice ∨ (twice = den ∧ q % 2 = 1) then q + 1 else q

/-- The quotient `num / (den * 2^exponent)` as a pair of natural numbers. -/
def scaled (num den : Nat) (exponent : Int) : Nat × Nat :=
  match exponent with
  | .ofNat k => (num, den <<< k)
  | .negSucc k => (num <<< (k + 1), den)

/-- The exponent at which a positive quotient has a 53-bit integer part, or the least one. -/
def exponentOf (num den : Nat) : Int :=
  let guess : Int := (Nat.log2 num : Int) - Nat.log2 den
  let (n, d) := scaled num den guess
  max (if n < d then guess - 53 else guess - 52) minExponent

def ofRatio (negative : Bool) (num den : Nat) : Binary64 :=
  if num = 0 then zero negative
  else
    let e := exponentOf num den
    let (n, d) := scaled num den e
    let q := roundedQuotient n d
    let (m, e) := if q = Nat.pow 2 53 then (Nat.pow 2 52, e + 1) else (q, e)
    if maxExponent < e then .infinite negative else .finite negative m e

/-- The number nearest to `digits * 10^exponent`. Beyond 400 places on either side the nearest
number is infinite or zero. -/
def ofDecimal (negative : Bool) (digits : Nat) (exponent : Int) : Binary64 :=
  if digits = 0 then zero negative
  else
    let places := (Nat.toDigits 10 digits).length + exponent
    if 400 < places then .infinite negative
    else if places < -400 then zero negative
    else match exponent with
      | .ofNat k => ofRatio negative (digits * Nat.pow 10 k) 1
      | .negSucc k => ofRatio negative digits (Nat.pow 10 (k + 1))

def ratio (mantissa : Nat) (exponent : Int) : Nat × Nat :=
  match exponent with
  | .ofNat k => (mantissa <<< k, 1)
  | .negSucc k => (mantissa, 1 <<< (k + 1))

/-- The integer part, the sign kept. -/
def truncated (negative : Bool) (mantissa : Nat) (exponent : Int) : Int :=
  let (n, d) := ratio mantissa exponent
  if negative then -((n / d : Nat) : Int) else (n / d : Nat)

def toInt? : Binary64 → Option Int
  | .finite negative mantissa exponent =>
    let (n, d) := ratio mantissa exponent
    if n % d = 0 then some (truncated negative mantissa exponent) else none
  | _ => none

/-- Numeric equality: the two zeros are equal and an undefined number equals nothing. -/
def equals : Binary64 → Binary64 → Bool
  | .nan, _ => false
  | .infinite s, .infinite t => s == t
  | .finite s m e, .finite t n f => (m == 0 && n == 0) || (s == t && m == n && e == f)
  | _, _ => false

def negate : Binary64 → Binary64
  | .nan => .nan
  | .infinite negative => .infinite !negative
  | .finite negative mantissa exponent => .finite (!negative) mantissa exponent

def ofNat? (n : Nat) : Option Binary64 :=
  match ofRatio false n 1 with
  | .infinite _ => none
  | x => some x

def mul (x y : Binary64) : Binary64 :=
  match x, y with
  | .finite s m e, .finite t n f =>
    let (a, b) := ratio m e
    let (c, d) := ratio n f
    ofRatio (s != t) (a * c) (b * d)
  | .nan, _ => .nan
  | _, .nan => .nan
  | .infinite s, .infinite t => .infinite (s != t)
  | .infinite s, .finite t n _ => if n = 0 then .nan else .infinite (s != t)
  | .finite s m _, .infinite t => if m = 0 then .nan else .infinite (s != t)

def add (x y : Binary64) : Binary64 :=
  match x, y with
  | .finite s m e, .finite t n f =>
    let (a, b) := ratio m e
    let (c, d) := ratio n f
    let sum : Int := (if s then -(a * d : Int) else a * d) + (if t then -(c * b : Int) else c * b)
    ofRatio (if sum = 0 then s && t else sum < 0) sum.natAbs (b * d)
  | .nan, _ => .nan
  | _, .nan => .nan
  | .infinite s, .infinite t => if s = t then .infinite s else .nan
  | .infinite s, _ => .infinite s
  | _, .infinite t => .infinite t

/-! ## Shortest digits -/

/-- Digits and the place of the point behind the first `point` of them. -/
structure Digits where
  digits : List Char
  point : Int
  deriving DecidableEq, Repr

/-- The decimal exponent `p` with `10^(p-1) ≤ num/den < 10^p`, from an estimate below it. -/
def pointFrom (num den : Nat) : Nat → Int → Int
  | 0, p => p
  | fuel + 1, p =>
    let above : Bool := match p with
      | .ofNat k => decide (num < den * Nat.pow 10 k)
      | .negSucc k => decide (num * Nat.pow 10 (k + 1) < den)
    if above then p else pointFrom num den fuel (p + 1)

/-- The number of digits before the point of a positive quotient, zero or negative below 0.1. -/
def pointOf (num den : Nat) : Int :=
  let guess := ((Nat.log2 num : Int) - Nat.log2 den - 1) * 30103 / 100000
  pointFrom num den 4 (guess - 1)

/-- The integer part and the remaining quotient of `num/den * 10^shift`. -/
def onGrid (num den : Nat) (shift : Int) : Nat × Nat × Nat :=
  let (n, d) := match shift with
    | .ofNat k => (num * Nat.pow 10 k, den)
    | .negSucc k => (num, den * Nat.pow 10 (k + 1))
  (n / d, n % d, d)

/-- The decimal of the given number of digits that reads back as the number. Of the two
neighbours on the decimal grid the nearer one wins, and of two equally near the even one. -/
def withDigits? (mantissa : Nat) (exponent : Int) (count : Nat) : Option (Nat × Int) :=
  let (num, den) := ratio mantissa exponent
  let shift : Int := count - pointOf num den
  let (below, rest, d) := onGrid num den shift
  let readsBack (n : Nat) : Bool := ofDecimal false n (-shift) == .finite false mantissa exponent
  let upFirst : Bool := d < 2 * rest || (2 * rest == d && below % 2 == 1)
  let (first, second) := if upFirst then (below + 1, below) else (below, below + 1)
  if readsBack first then some (first, -shift)
  else if readsBack second then some (second, -shift)
  else none

/-- The shortest digits of a positive finite number: seventeen always suffice. -/
def shortest (mantissa : Nat) (exponent : Int) : Digits :=
  let found := (List.range 17).findSome? fun k => withDigits? mantissa exponent (k + 1)
  let (n, e) := found.getD (0, 0)
  let cs := Nat.toDigits 10 n
  let trimmed := (cs.reverse.dropWhile (· == '0')).reverse
  ⟨trimmed, cs.length + e⟩

/-- Digits written without an exponent; a whole number ends in `.0`. -/
def positional (d : Digits) : List Char :=
  match d.point with
  | .ofNat 0 => '0' :: '.' :: d.digits
  | .ofNat k =>
    if d.digits.length ≤ k then
      d.digits ++ List.replicate (k - d.digits.length) '0' ++ ['.', '0']
    else d.digits.take k ++ '.' :: d.digits.drop k
  | .negSucc k => '0' :: '.' :: (List.replicate (k + 1) '0' ++ d.digits)

def scientific (d : Digits) : List Char :=
  let head := match d.digits with
    | c :: c' :: cs => c :: '.' :: c' :: cs
    | cs => cs
  let e := d.point - 1
  let digits := Nat.toDigits 10 e.natAbs
  head ++ 'e' :: (if e < 0 then '-' else '+') ::
    (List.replicate (2 - digits.length) '0' ++ digits)

/-- The text of a number: positional from `1e-4` up to below `1e16`. -/
def toText : Binary64 → String
  | .nan => "nan"
  | .infinite negative => if negative then "-inf" else "inf"
  | .finite negative mantissa exponent =>
    let body :=
      if mantissa = 0 then ['0', '.', '0']
      else
        let d := shortest mantissa exponent
        if -4 < d.point ∧ d.point ≤ 16 then positional d else scientific d
    String.ofList (if negative then '-' :: body else body)

/-! ## Reading -/

def readExponent (cs : List Char) : Int × List Char :=
  match cs with
  | 'e' :: rest | 'E' :: rest =>
    let (negative, body) := splitSign rest
    let digits := body.takeWhile Text.isAsciiDigit
    if digits.isEmpty then (0, cs)
    else
      let n : Int := ofDigits 10 (digits.map (·.toNat - 48))
      (if negative then -n else n, body.drop digits.length)
  | _ => (0, cs)

def readDecimal? (cs : List Char) : Option (Nat × Int × List Char) :=
  let whole := cs.takeWhile Text.isAsciiDigit
  let rest := cs.drop whole.length
  let (fraction, rest) := match rest with
    | '.' :: after =>
      let f := after.takeWhile Text.isAsciiDigit
      (f, after.drop f.length)
    | _ => ([], rest)
  if whole.isEmpty && fraction.isEmpty then none
  else
    let (e, rest) := readExponent rest
    let n := ofDigits 10 ((whole ++ fraction).map (·.toNat - 48))
    some (n, e - fraction.length, rest)

def named? (negative : Bool) (cs : List Char) : Option Binary64 :=
  match String.ofList (Text.lowerAscii cs) with
  | "inf" | "infinity" => some (.infinite negative)
  | "nan" => some .nan
  | _ => none

/-- The text without underscores, if each of them stands between two digits. -/
def withoutUnderscores? : Option Char → List Char → Option (List Char)
  | _, [] => some []
  | before, c :: cs =>
    if c = '_' then
      if before.any Text.isAsciiDigit && cs.head?.any Text.isAsciiDigit then
        withoutUnderscores? (some c) cs
      else none
    else (withoutUnderscores? (some c) cs).map (c :: ·)

/-- Reads a number written in digits of any script or by name, blanks around it aside. -/
def ofText? (s : String) : Option Binary64 :=
  let blankless := Text.dropTrailingWhere isNumberBlank (s.toList.dropWhile isNumberBlank)
  let ascii := blankless.map fun c =>
    match Text.decimalValue? c with
    | some v => Char.ofNat (48 + v)
    | none => c
  match withoutUnderscores? none ascii with
  | none => none
  | some cs =>
    let (negative, body) := splitSign cs
    match named? negative body with
    | some x => some x
    | none =>
      match readDecimal? body with
      | some (n, e, []) => some (ofDecimal negative n e)
      | _ => none

end Binary64

end Traceability.Number
