import EditorAssist.Number.Binary64

/-!
# The shortest decimal that reads back

Among the decimals that a reader rounds to a given double, the one with the fewest digits is
printed, and of those the nearest. Two candidates exist for each digit count, the neighbours of the
value on that decimal grid, and both are tested in exact arithmetic.
-/

namespace EditorAssist.Number

/-- A decimal `0.d₁d₂… * 10 ^ point`: its digits and the place of the point. -/
structure Decimal where
  digits : List Char
  point : Int
  deriving Repr, DecidableEq

namespace Shortest

/-- The reals that round to a double: between `low / den` and `high / den`, ends included for an
even mantissa. -/
structure Interval where
  low : Nat
  value : Nat
  high : Nat
  den : Nat
  closed : Bool

/-- The rounding interval of `mantissa * 2 ^ exponent`; below a power of two the spacing halves. -/
def Interval.ofParts (mantissa : Nat) (exponent : Int) : Interval :=
  let narrow := mantissa = 1 <<< 52 && exponent ≠ -1074
  let (num, den) := Binary64.fraction 1 (exponent - 2)
  { low := (4 * mantissa - (if narrow then 1 else 2)) * num
    value := 4 * mantissa * num
    high := (4 * mantissa + 2) * num
    den
    closed := mantissa % 2 = 0 }

/-- Whether the fraction `num / den` lies in the interval. -/
def Interval.holds (i : Interval) (num den : Nat) : Bool :=
  let above := if i.closed then i.low * den ≤ num * i.den else i.low * den < num * i.den
  let below := if i.closed then num * i.den ≤ i.high * den else num * i.den < i.high * den
  above && below

/-- Number of decimal digits. -/
def width (n : Nat) : Nat := (digits n).length

/-- The power of ten just above a positive value: `10 ^ (p - 1) ≤ value < 10 ^ p`. -/
def magnitude (i : Interval) : Int :=
  (width (i.value * Nat.pow 10 400 / i.den) : Int) - 400

/-- `count * 10 ^ scale` as a fraction. -/
def gridPoint (count : Nat) (scale : Int) : Nat × Nat :=
  if 0 ≤ scale then (count * Nat.pow 10 scale.toNat, 1) else (count, Nat.pow 10 (-scale).toNat)

/-- The nearer neighbour of the value on the grid `10 ^ scale` that lies in the interval. -/
def onGrid? (i : Interval) (scale : Int) : Option Nat :=
  let (unitNum, unitDen) := gridPoint 1 scale
  let below := i.value * unitDen / (i.den * unitNum)
  let test (count : Nat) : Bool :=
    let (num, den) := gridPoint count scale
    i.holds num den
  match test below, test (below + 1) with
  | true, true =>
    let twice := 2 * (i.value * unitDen % (i.den * unitNum))
    if twice < i.den * unitNum || (twice = i.den * unitNum && below % 2 = 0) then some below
    else some (below + 1)
  | true, false => some below
  | false, true => some (below + 1)
  | false, false => none

/-- Tries grids of increasing fineness, `count` of them from `scale` downwards. -/
def search (i : Interval) (scale : Int) : Nat → Option (Nat × Int)
  | 0 => none
  | count + 1 =>
    match onGrid? i scale with
    | some found => some (found, scale)
    | none => search i (scale - 1) count

/-- The decimal at a place on a grid, without the zeros at its end; zero where there is none. -/
def toDecimal : Option (Nat × Int) → Decimal
  | none => ⟨['0'], 1⟩
  | some (count, scale) =>
    let all := digits count
    let kept := (all.reverse.dropWhile (· = '0')).reverse
    ⟨kept, scale + all.length⟩

end Shortest

/-- The shortest decimal of a positive double. Seventeen digits always suffice. -/
def shortest (mantissa : Nat) (exponent : Int) : Decimal :=
  let i := Shortest.Interval.ofParts mantissa exponent
  Shortest.toDecimal (Shortest.search i (Shortest.magnitude i - 1) 18)

/-- How a decimal is laid out: exponents up to which the positional form is used on either side,
and the fewest digits of a written exponent. -/
structure Layout where
  smallest : Int
  largest : Int
  exponentDigits : Nat

/-- Positional from `0.0001` up to below `10 ^ 16`, otherwise one digit, a point and an exponent
of at least two digits. -/
def Layout.plain : Layout := ⟨-3, 16, 2⟩

def zeros (n : Nat) : List Char := List.replicate n '0'

/-- Writes a decimal; a whole number in positional form keeps one zero after the point. -/
def Decimal.render (layout : Layout) (d : Decimal) : List Char :=
  if layout.smallest ≤ d.point && d.point ≤ layout.largest then
    if d.point ≤ 0 then "0.".toList ++ zeros (-d.point).toNat ++ d.digits
    else
      let before := d.point.toNat
      if d.digits.length ≤ before then d.digits ++ zeros (before - d.digits.length) ++ ".0".toList
      else d.digits.take before ++ '.' :: d.digits.drop before
  else
    let scale := d.point - 1
    let sign := if scale < 0 then '-' else '+'
    let size := Number.digits scale.natAbs
    let mantissa := match d.digits with
      | [] => ['0']
      | [only] => [only]
      | first :: more => first :: '.' :: more
    mantissa ++ 'e' :: sign :: (zeros (layout.exponentDigits - size.length) ++ size)

/-- The words for values without a decimal form. -/
structure SpecialNames where
  undefined : String
  infinite : String

/-- Text of a double: its shortest decimal, with the given names for special values. -/
def floatText (names : SpecialNames) (x : Float) : List Char :=
  match Binary64.ofFloat x with
  | .undefined => names.undefined.toList
  | .infinite negative => (if negative then ['-'] else []) ++ names.infinite.toList
  | .finite negative mantissa exponent =>
    let body := if mantissa = 0 then "0.0".toList
      else (shortest mantissa exponent).render Layout.plain
    (if negative then ['-'] else []) ++ body

end EditorAssist.Number
