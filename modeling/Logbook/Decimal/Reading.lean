import Logbook.Decimal.Binary

namespace Logbook.Decimal

def digitsValue (cs : List Char) : Nat :=
  Nat.ofDigitChars 10 cs 0

def sign : List Char → Bool × List Char
  | '-' :: cs => (true, cs)
  | '+' :: cs => (false, cs)
  | cs => (false, cs)

def exponent? : List Char → Option Int
  | [] => some 0
  | c :: cs =>
    let (negative, ds) := sign cs
    if (c == 'e' || c == 'E') && !ds.isEmpty && ds.all Char.isDigit then
      some (if negative then -(digitsValue ds : Int) else digitsValue ds)
    else none

/-- The number nearest to `digits · 10 ^ exponent`. Powers far outside the range of binary numbers
are not computed. -/
def ofDigits (negative : Bool) (digits : List Char) (exponent : Int) : Binary :=
  let m := digitsValue digits
  let top := exponent + digits.length
  if m = 0 || top < -330 then .finite negative 0 Binary.leastExponent
  else if 400 < exponent then .infinite negative
  else if exponent < 0 then Binary.ofFraction negative m (Nat.pow 10 (-exponent).toNat)
  else Binary.ofFraction negative (m * Nat.pow 10 exponent.toNat) 1

def named? (name : String) : Option (Bool → Binary) :=
  match name.map Char.toLower with
  | "inf" => some .infinite
  | "infinity" => some .infinite
  | "nan" => some fun _ => .nan
  | _ => none

def read? (text : String) : Option Binary :=
  let (negative, cs) := sign text.toList
  let whole := cs.takeWhile Char.isDigit
  let rest := cs.dropWhile Char.isDigit
  let (part, rest) := match rest with
    | '.' :: rest => (rest.takeWhile Char.isDigit, rest.dropWhile Char.isDigit)
    | rest => ([], rest)
  if whole.isEmpty && part.isEmpty then (named? (String.ofList cs)).map (· negative)
  else (exponent? rest).map fun e => ofDigits negative (whole ++ part) (e - part.length)

end Logbook.Decimal
