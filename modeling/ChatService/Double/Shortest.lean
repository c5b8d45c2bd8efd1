import ChatService.Double

/-!
# Shortest decimal of a double

A double is written with the fewest digits that still single it out, and of several such decimals
the nearest to it, the even one if two are equally near. Numbers of moderate size are written in
positional notation, the others with an exponent.
-/

namespace ChatService

namespace Magnitude

/-- Whether a fraction rounds to this size: it lies within half a step on either side, ends included
    when the significand is even. Below a power of two the step is half as long. -/
def covers (x : Magnitude) (num den : Nat) : Bool :=
  let below := if x.significand = Nat.pow 2 52 ∧ -1074 < x.exponent then 1 else 2
  -- everything in quarters of a step
  let (n, d) := scale2 num den (2 - x.exponent)
  let low := (4 * x.significand - below) * d
  let high := (4 * x.significand + 2) * d
  if x.significand % 2 = 0 then decide (low ≤ n) && decide (n ≤ high)
  else decide (low < n) && decide (n < high)

/-- The multiple of `10 ^ e` that is written for a size, if one rounds to it: the one next below or
    next above it. -/
def multiple? (x : Magnitude) (e : Int) : Option Nat :=
  let (n, d) := scale10 x.fraction.1 x.fraction.2 (-e)
  let fits (c : Nat) : Bool := let (num, den) := scale10 c 1 e; 0 < c && x.covers num den
  let low := n / d
  let high := low + 1
  match fits low, fits high with
  | true, true => some (roundHalfEven n d)
  | true, false => some low
  | false, true => some high
  | false, false => none

/-- Tries one digit after another, at most `tries` times, from the place `e` of the first digit. -/
def shortestFrom (x : Magnitude) : Nat → Int → Nat × Int
  | 0, e => (0, e)
  | tries + 1, e =>
    match x.multiple? e with
    | some c => (c, e)
    | none => shortestFrom x tries (e - 1)

/-- The fewest digits of a size other than zero, as a whole number and the place of its last digit.
    Seventeen digits always suffice, and the first one has its place among the first three tried. -/
def shortest (x : Magnitude) : Nat × Int :=
  let length (n : Nat) : Int := (Nat.toDigits 10 n).length
  x.shortestFrom 20 (length x.fraction.1 - length x.fraction.2 + 1)

end Magnitude

namespace Double

/-- The places of a first digit that is written in positional notation. -/
def isPositional (place : Int) : Bool := -5 ≤ place && place ≤ 15

/-- Digits in positional notation, always with a point and a digit behind it; `e` is the place of
    the last digit. -/
def positional (digits : List Char) (e : Int) : List Char :=
  if 0 ≤ e then digits ++ List.replicate e.toNat '0' ++ ['.', '0']
  else
    let places := (-e).toNat
    let padded := List.replicate (places + 1 - digits.length) '0' ++ digits
    padded.take (padded.length - places) ++ '.' :: padded.drop (padded.length - places)

/-- Digits with a point behind the first, if others follow, and the place of the first one. -/
def scientific (digits : List Char) (place : Int) : List Char :=
  let fraction :=
    match digits.drop 1 with
    | [] => []
    | rest => '.' :: rest
  digits.take 1 ++ fraction ++ 'e' :: (if place < 0 then '-' else '+') ::
    Nat.toDigits 10 place.natAbs

/-- The text of a double. -/
def chars (x : Double) : List Char :=
  (if x.negative then ['-'] else []) ++
    if x.size.isZero then ['0', '.', '0']
    else
      let (c, e) := x.size.shortest
      let digits := Nat.toDigits 10 c
      let place := e + digits.length - 1
      if isPositional place then positional digits e else scientific digits place

/-- The text of a double. -/
def render (x : Double) : String := String.ofList x.chars

example : (ofScientific? false 1 15).map render = some "1000000000000000.0" := by decide +kernel
example : (ofScientific? true 1 16).map render = some "-1e+16" := by decide +kernel
example : (ofScientific? false 9007199254740993 0).map render = some "9007199254740992.0" := by
  decide +kernel
example : (ofScientific? false 1 23).map render = some "1e+23" := by decide +kernel
example : render ⟨true, .zero⟩ = "-0.0" := by decide +kernel
example : render ⟨false, ⟨4503599627370496, -77⟩⟩ = "2.9802322387695312e-8" := by decide +kernel
example : render ⟨false, ⟨1, -1074⟩⟩ = "5e-324" := by decide +kernel

end Double

end ChatService
