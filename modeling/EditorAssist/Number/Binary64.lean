/-!
# Binary64 numbers as exact fractions

A finite double is `mantissa * 2 ^ exponent` with integers on both sides. Everything printed about a
double is decided in exact arithmetic on that pair: rounding to fixed places, the shortest decimal
that reads back, and whether the value is an integer.
-/

namespace EditorAssist.Number

/-- The parts of a double: infinite and undefined values have no fraction. -/
inductive Binary64 where
  | finite (negative : Bool) (mantissa : Nat) (exponent : Int)
  | infinite (negative : Bool)
  | undefined
  deriving Repr, DecidableEq

namespace Binary64

/-- Reads the sign, exponent and fraction fields. -/
def ofBits (bits : Nat) : Binary64 :=
  let negative : Bool := (bits >>> 63) % 2 = 1
  let biased : Nat := (bits >>> 52) % 2048
  let fraction : Nat := bits % (1 <<< 52)
  if biased = 2047 then (if fraction = 0 then infinite negative else undefined)
  else if biased = 0 then finite negative fraction (-1074)
  else finite negative ((1 <<< 52) + fraction) ((biased : Int) - 1075)

def ofFloat (x : Float) : Binary64 := ofBits x.toBits.toNat

/-- Numerator and denominator of `mantissa * 2 ^ exponent`. -/
def fraction (mantissa : Nat) (exponent : Int) : Nat × Nat :=
  if 0 ≤ exponent then (mantissa <<< exponent.toNat, 1) else (mantissa, 1 <<< (-exponent).toNat)

/-- The integer that a double equals, if it is one. -/
def toInt? : Binary64 → Option Int
  | finite negative mantissa exponent =>
    let (num, den) := fraction mantissa exponent
    if num % den = 0 then
      let magnitude : Int := (num / den : Nat)
      some (if negative then -magnitude else magnitude)
    else none
  | _ => none

/-- The integer part of a double, the fraction dropped towards zero. -/
def truncate? : Binary64 → Option Int
  | finite negative mantissa exponent =>
    let (num, den) := fraction mantissa exponent
    let magnitude : Int := (num / den : Nat)
    some (if negative then -magnitude else magnitude)
  | _ => none

end Binary64

/-- Nearest integer to `num / den`; a half goes to the even neighbour. -/
def roundHalfEven (num den : Nat) : Nat :=
  let quotient := num / den
  let twice := 2 * (num % den)
  if twice < den then quotient
  else if den < twice then quotient + 1
  else quotient + quotient % 2

/-- Twice the distance from `num / den` to the rounded value is at most one unit. -/
theorem roundHalfEven_near (num den : Nat) (h : 0 < den) :
    2 * num ≤ (2 * roundHalfEven num den + 1) * den ∧
      2 * roundHalfEven num den * den ≤ 2 * num + den := by
  have split : den * (num / den) + num % den = num := Nat.div_add_mod num den
  have small : num % den < den := Nat.mod_lt _ h
  unfold roundHalfEven
  simp only
  generalize num / den = q at *
  generalize num % den = r at *
  subst split
  have parity : q % 2 = 0 ∨ q % 2 = 1 := by omega
  split
  · constructor <;> grind
  · split
    · constructor <;> grind
    · rcases parity with p | p <;> rw [p] <;> constructor <;> grind

/-- Decimal digits of a natural number, most significant first. -/
def digits (n : Nat) : List Char := (Nat.repr n).toList

/-- A number with exactly `places` decimals, rounded half to even on its exact value. -/
def fixed (places : Nat) (negative : Bool) (num den : Nat) : List Char :=
  let unit := Nat.pow 10 places
  let scaled := roundHalfEven (num * unit) den
  let whole := digits (scaled / unit)
  let decimals := digits (scaled % unit)
  let sign := if negative then ['-'] else []
  let padded := List.replicate (places - decimals.length) '0' ++ decimals
  sign ++ whole ++ (if places = 0 then [] else '.' :: padded)

/-- `fixed` for a double; the words for infinite and undefined values carry no decimals. -/
def fixedFloat (places : Nat) (x : Float) : List Char :=
  match Binary64.ofFloat x with
  | .finite negative mantissa exponent =>
    let (num, den) := Binary64.fraction mantissa exponent
    fixed places negative num den
  | .infinite negative => (if negative then "-inf" else "inf").toList
  | .undefined => "nan".toList

end EditorAssist.Number
