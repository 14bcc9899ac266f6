import TypedJsx.Tree.Node
import TypedJsx.Comment
/-!
Numbers as they are written: the double that a numeral stands for, the shortest decimal that stands for a
double, and literals with as few characters as the language allows.
-/
namespace TypedJsx

/-! ## Doubles

The double-precision value of a written number, in exact arithmetic: the multiple of a power of two that is
nearest to it, a half going to the even neighbour. -/

/-- A double that is not negative: zero, `significand` times two to the power `exponent`, or too large
to be finite. A significand has at most 53 bits, and fewer only at the least exponent. -/
inductive Double where
  | zero
  | finite (significand : Nat) (exponent : Int)
  | infinite
deriving DecidableEq, Repr, Inhabited

namespace Double

/-- The least exponent. -/
def leastExponent : Int := -1074

/-- The quotient of two numbers, rounded to the nearest, a half to the even neighbour. -/
def roundDiv (num den : Nat) : Nat :=
  let q := num / den
  let r := num % den
  if 2 * r < den then q
  else if den < 2 * r then q + 1
  else if q % 2 = 0 then q else q + 1

/-- `num / den` in units of two to the power `exponent`, as a fraction. -/
def scale (num den : Nat) (exponent : Int) : Nat × Nat :=
  if exponent < 0 then (num * Nat.pow 2 exponent.natAbs, den)
  else (num, den * Nat.pow 2 exponent.natAbs)

/-- The double nearest to a fraction of positive numbers. -/
def ofFraction (num den : Nat) : Double :=
  let guess : Int := (Nat.log2 num : Int) - (Nat.log2 den : Int) - 53
  let (a, b) := scale num den guess
  let exponent := max leastExponent (if Nat.pow 2 53 ≤ a / b then guess + 1 else guess)
  let (a, b) := scale num den exponent
  let m := roundDiv a b
  let (m, exponent) := if Nat.pow 2 53 ≤ m then (m / 2, exponent + 1) else (m, exponent)
  if m = 0 then .zero
  else if 971 < exponent then .infinite
  else .finite m exponent

/-- The double nearest to a number. Far outside the range the answer needs no arithmetic. -/
def ofNumeral (n : Numeral) : Double :=
  if n.digits = 0 then .zero
  else if 310 < n.exponent then .infinite
  else if 0 ≤ n.exponent then ofFraction (n.digits * Nat.pow 10 n.exponent.natAbs) 1
  else if (Nat.log2 n.digits : Int) + 3 * n.exponent < -1100 then .zero
  else ofFraction n.digits (Nat.pow 10 n.exponent.natAbs)

/-- Whether the value is a whole number. -/
def isWhole : Double → Bool
  | .zero => true
  | .finite m e => 0 ≤ e || m % Nat.pow 2 e.natAbs = 0
  | .infinite => false

/-- The value without its fraction. -/
def floor : Double → Nat
  | .zero | .infinite => 0
  | .finite m e => if 0 ≤ e then m * Nat.pow 2 e.natAbs else m / Nat.pow 2 e.natAbs

end Double

/-! ## Shortest decimals

Of all decimals that round to a double, those with the fewest digits count, and of these the nearest. The
reals that round to a double form an interval. On the grid of decimals with a given number of digits, a point
of the interval exists only if one of the value's two neighbours on the grid is one, so it suffices to try
these two, for one digit, two digits, and so on; seventeen are always enough. -/

/-- A positive decimal `0.d₁d₂… · 10^point`: its digits as a number, and where the point stands. -/
structure Decimal where
  digits : Nat
  point : Int
deriving DecidableEq, Repr, Inhabited

namespace Decimal

/-- How many digits a number has in base ten. -/
def width (n : Nat) : Nat := (Nat.toDigits 10 n).length

/-- A fraction `num / den` compared with ten to the power `e`: at least as large. -/
def reaches (num den : Nat) (e : Int) : Bool :=
  if 0 ≤ e then den * Nat.pow 10 e.natAbs ≤ num else den ≤ num * Nat.pow 10 e.natAbs

/-- The exponent `k` with `10^(k-1) ≤ num / den < 10^k`, near a first guess. -/
def magnitude (num den : Nat) : Int :=
  let guess : Int := (width num : Int) - (width den : Int)
  if reaches num den guess then guess + 1 else guess

/-- Removes zeros from the end of a number. -/
def dropZeros : Nat → Nat → Nat
  | 0, n => n
  | fuel + 1, n => if n ≠ 0 ∧ n % 10 = 0 then dropZeros fuel (n / 10) else n

/-- The interval of the reals that round to a double, its ends and its middle being fractions over one
denominator. -/
structure Interval where
  low : Nat
  middle : Nat
  high : Nat
  den : Nat
  closed : Bool

/-- The interval of a finite double. Below a power of two the neighbours are closer. -/
def interval (m : Nat) (e : Int) : Interval :=
  let unit := if 0 ≤ e then Nat.pow 2 e.natAbs else 1
  let den := if 0 ≤ e then 1 else Nat.pow 2 e.natAbs
  let below := if m = Nat.pow 2 52 ∧ Double.leastExponent < e then 1 else 2
  { low := (4 * m - below) * unit, middle := 4 * m * unit, high := (4 * m + 2) * unit,
    den := 4 * den, closed := m % 2 = 0 }

/-- Whether the point `count · 10^e` of a grid lies in the interval. -/
def Interval.holds (i : Interval) (count : Nat) (e : Int) : Bool :=
  let (x, scale) :=
    if 0 ≤ e then (count * Nat.pow 10 e.natAbs * i.den, 1) else (count * i.den, Nat.pow 10 e.natAbs)
  if i.closed then i.low * scale ≤ x && x ≤ i.high * scale
  else i.low * scale < x && x < i.high * scale

/-- The decimal `count · 10^e`. -/
def ofGrid (count : Nat) (e : Int) : Decimal :=
  ⟨dropZeros (width count) count, (width count : Int) + e⟩

/-- Tries the grids from `n` digits on. -/
def search (i : Interval) (k : Int) : Nat → Nat → Decimal
  | 0, _ => ⟨0, 0⟩
  | fuel + 1, n =>
    let e := k - n
    let (num, den) :=
      if 0 ≤ e then (i.middle, i.den * Nat.pow 10 e.natAbs)
      else (i.middle * Nat.pow 10 e.natAbs, i.den)
    let below := num / den
    let isNearBelow := 2 * (num % den) < den || (2 * (num % den) = den && below % 2 = 0)
    let first := if isNearBelow then below else below + 1
    let second := if isNearBelow then below + 1 else below
    if first ≠ 0 && i.holds first e then ofGrid first e
    else if second ≠ 0 && i.holds second e then ofGrid second e
    else search i k fuel (n + 1)

/-- The shortest decimal of a finite double. -/
def ofFinite (m : Nat) (e : Int) : Decimal :=
  let i := interval m e
  search i (magnitude i.middle i.den) 18 1

end Decimal

/-! ## Literals

Positional, with an exponent, or in base sixteen. -/

namespace Decimal

def digitText (n : Nat) : List Char := Nat.toDigits 10 n

def zeros (n : Nat) : List Char := List.replicate n '0'

/-- The text of an exponent with its sign. -/
def signedText (e : Int) : List Char :=
  if e < 0 then '-' :: digitText e.natAbs else digitText e.natAbs

/-- The standard text of a decimal: positional from a millionth up to twenty-one digits, with an
exponent outside that range. -/
def text (d : Decimal) : List Char :=
  let ds := digitText d.digits
  let n := d.point
  let k : Int := ds.length
  if k ≤ n ∧ n ≤ 21 then ds ++ zeros (n - k).natAbs
  else if 0 < n ∧ n ≤ 21 then ds.take n.natAbs ++ '.' :: ds.drop n.natAbs
  else if -6 < n ∧ n ≤ 0 then '0' :: '.' :: zeros n.natAbs ++ ds
  else
    let e := n - 1
    let mantissa := match ds with
      | d :: (_ :: _) => d :: '.' :: ds.drop 1
      | _ => ds
    mantissa ++ 'e' :: (if e < 0 then signedText e else '+' :: signedText e)

/-- The text of a decimal that no whole number has: positional from a hundred thousandth up to sixteen
digits, and then with a point, else with an exponent. -/
def pointedText (d : Decimal) : List Char :=
  let ds := digitText d.digits
  let n := d.point
  let k : Int := ds.length
  if k ≤ n ∧ n ≤ 16 then ds ++ zeros (n - k).natAbs ++ ['.', '0']
  else if 0 < n ∧ n ≤ 16 then ds.take n.natAbs ++ '.' :: ds.drop n.natAbs
  else if -5 < n ∧ n ≤ 0 then '0' :: '.' :: zeros n.natAbs ++ ds
  else
    let mantissa := match ds with
      | d :: (_ :: _) => d :: '.' :: ds.drop 1
      | _ => ds
    mantissa ++ 'e' :: signedText (n - 1)

end Decimal

namespace NumberText

/-- The standard text of a double. -/
def standard : Double → List Char
  | .zero => ['0']
  | .finite m e => (Decimal.ofFinite m e).text
  | .infinite => "Infinity".toList

/-- The text of a double with a point or an exponent, so that it is not taken for a whole number. -/
def pointed : Double → List Char
  | .zero => "0.0".toList
  | .finite m e => (Decimal.ofFinite m e).pointedText
  | .infinite => "inf".toList

/-- The shorter of two texts, the first if they are as long. -/
def shorter (a b : List Char) : List Char := if b.length < a.length then b else a

/-- The zero before a point and the plus of an exponent can be left out. -/
def stripped (cs : List Char) : List Char :=
  let cs := match cs with
    | '0' :: '.' :: r => '.' :: r
    | cs => cs
  if occursIn ['e', '+'] cs then
    cs.takeWhile (· != 'e') ++ 'e' :: (cs.dropWhile (· != 'e')).drop 2
  else cs

/-- A fraction `.00ddd` with an exponent instead of zeros. -/
def scaledFraction (cs : List Char) : List Char :=
  match cs with
  | '.' :: '0' :: r =>
    let digits := r.dropWhile (· == '0')
    let places := cs.length - 1
    shorter cs (digits ++ 'e' :: '-' :: Decimal.digitText places)
  | cs => cs

/-- A whole number `ddd000` with an exponent instead of zeros. -/
def scaledWhole (cs : List Char) : List Char :=
  let count := (cs.reverse.takeWhile (· == '0')).length
  if count = 0 then cs
  else shorter cs (cs.take (cs.length - count) ++ 'e' :: Decimal.digitText count)

/-- A number `d.ddde5` with a whole mantissa. -/
def wholeMantissa (value : Double) (cs : List Char) : List Char :=
  if cs.contains '.' && cs.contains 'e' then
    match value with
    | .finite m e =>
      let d := Decimal.ofFinite m e
      let ds := Decimal.digitText d.digits
      shorter cs (ds ++ 'e' :: Decimal.signedText (d.point - ds.length))
    | _ => cs
  else cs

/-- The shortest way to write a double. -/
def literal (value : Double) : List Char :=
  match value with
  | .zero | .infinite => standard value
  | _ =>
    if value.isWhole && value.floor < 1000 then standard value
    else
      let plain := stripped (standard value)
      let hex := '0' :: 'x' :: Nat.toDigits 16 value.floor
      if value.isWhole && hex.length < plain.length then hex
      else wholeMantissa value (scaledWhole (if value.isWhole then plain else scaledFraction plain))

/-- A member access right after the text would be read as a fraction. -/
def needsBlankBeforeDot (cs : List Char) : Bool := cs.all fun c => '0' ≤ c && c ≤ '9'

end NumberText

end TypedJsx
