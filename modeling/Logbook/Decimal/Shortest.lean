import Logbook.Decimal.Binary

/-!
The fewest decimal digits that read back as the same binary number, and among those the nearest.
All arithmetic is on fractions of natural numbers.
-/

namespace Logbook.Decimal

/-- The numbers that round to a given one: those between `low / den` and `high / den`, the ends
included when `closed`. The number itself is `value / den`. -/
structure Neighbourhood where
  low : Nat
  value : Nat
  high : Nat
  den : Nat
  closed : Bool

/-- Half the way to the next number on either side. Below a power of two the numbers lie twice as
dense, so the way down is half as long. -/
def neighbourhood (mantissa : Nat) (exponent : Int) : Neighbourhood :=
  let scale := Nat.pow 2 exponent.toNat
  let lower := if mantissa = Nat.pow 2 52 && Binary.leastExponent < exponent then 1 else 2
  { low := (4 * mantissa - lower) * scale
    value := 4 * mantissa * scale
    high := (4 * mantissa + 2) * scale
    den := 4 * Nat.pow 2 (-exponent).toNat
    closed := mantissa % 2 = 0 }

def Neighbourhood.contains (n : Neighbourhood) (num den : Nat) : Bool :=
  if n.closed then n.low * den ≤ num * n.den && num * n.den ≤ n.high * den
  else n.low * den < num * n.den && num * n.den < n.high * den

/-- The place of the point before the first digit: the least `k` with a value below `10 ^ k`. -/
def Neighbourhood.point (n : Neighbourhood) : Int :=
  ((Nat.toDigits 10 (n.value * Nat.pow 10 400 / n.den)).length : Int) - 400

/-- Of the two points of the grid `10 ^ place` around the value, the nearer one in the
neighbourhood. Of two equally near ones the upper is taken. -/
def Neighbourhood.onGrid? (n : Neighbourhood) (place : Int) : Option Nat :=
  let up := Nat.pow 10 place.toNat
  let down := Nat.pow 10 (-place).toNat
  let below := n.value * down / (n.den * up)
  let inside (d : Nat) := n.contains (d * up) down
  let remainder := n.value * down % (n.den * up)
  match inside below, inside (below + 1) with
  | true, true => some (if 2 * remainder < n.den * up then below else below + 1)
  | true, false => some below
  | false, true => some (below + 1)
  | false, false => none

/-- The value as digits behind a point, `0.d₁d₂… · 10 ^ point`. -/
structure Shortest where
  digits : List Char
  point : Int

/-- Tries one digit, then two, and so on. Seventeen digits always suffice. -/
def Neighbourhood.shortestFrom (n : Neighbourhood) (point : Int) : Nat → Nat → Shortest
  | _, 0 => ⟨['0'], 0⟩
  | count, tries + 1 =>
    match n.onGrid? (point - count) with
    | some d =>
      let digits := Nat.toDigits 10 d
      let kept := (digits.reverse.dropWhile (· == '0')).reverse
      ⟨kept, point - count + digits.length⟩
    | none => n.shortestFrom point (count + 1) tries

def shortest (mantissa : Nat) (exponent : Int) : Shortest :=
  if mantissa = 0 then ⟨['0'], 1⟩
  else
    let n := neighbourhood mantissa exponent
    n.shortestFrom n.point 1 17

/-- How the digits are laid out: by position while the first digit stands at a power of ten from
`least` to `greatest`, with a mark and an exponent otherwise. -/
structure Layout where
  least : Int
  greatest : Int
  mark : Char
  nan : String
  infinity : String

def Shortest.positional (s : Shortest) : List Char :=
  let count : Int := s.digits.length
  if s.point ≤ 0 then
    '0' :: '.' :: List.replicate (-s.point).toNat '0' ++ s.digits
  else if s.point < count then
    s.digits.take s.point.toNat ++ '.' :: s.digits.drop s.point.toNat
  else s.digits ++ List.replicate (s.point - count).toNat '0' ++ ['.', '0']

def Shortest.scientific (s : Shortest) (mark : Char) : List Char :=
  let rest := match s.digits with
    | [] => []
    | [d] => [d]
    | d :: ds => d :: '.' :: ds
  rest ++ mark :: (toString (s.point - 1)).toList

def Layout.write (layout : Layout) : Binary → String
  | .nan => layout.nan
  | .infinite negative => (if negative then "-" else "") ++ layout.infinity
  | .finite negative mantissa exponent =>
    let s := shortest mantissa exponent
    let power := s.point - 1
    let body :=
      if layout.least ≤ power && power ≤ layout.greatest then s.positional
      else s.scientific layout.mark
    (if negative then "-" else "") ++ String.ofList body

end Logbook.Decimal
