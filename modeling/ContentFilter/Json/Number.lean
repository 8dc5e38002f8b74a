/-!
# Numbers in JSON

What the spelling of a number stands for: a natural number, or a decimal fraction with an exponent, and
the double that lies nearest to it.  Doubles are counted in units of `2 ^ -1074`, of which every finite
double that is not negative is a whole number.
-/

namespace ContentFilter.Json

/-- The number that digits spell. -/
def digitsValue (digits : List Char) : Nat :=
  digits.foldl (fun n d => n * 10 + (d.toNat - '0'.toNat)) 0

/-- The natural number that a literal of digits spells; a fraction or an exponent makes another kind of
number, whatever its value. -/
def natural? (literal : String) : Option Nat :=
  let digits := literal.toList
  if !digits.isEmpty && digits.all Char.isDigit then some (digitsValue digits) else none

/-! ## Decimal fractions -/

/-- The number `digits * 10 ^ exponent`. -/
structure Decimal where
  digits : Nat
  exponent : Int
deriving DecidableEq, Repr

namespace Decimal

/-- The absolute value of the number that a literal spells. -/
def ofLiteral (literal : String) : Decimal :=
  let isMark := fun c => c == 'e' || c == 'E'
  let mantissa := literal.toList.takeWhile (!isMark ·)
  let power := literal.toList.dropWhile (!isMark ·)
  let exponent : Int := digitsValue (power.filter Char.isDigit)
  let places : Int := ((mantissa.dropWhile (· != '.')).drop 1).length
  { digits := digitsValue (mantissa.filter Char.isDigit)
    exponent := (if power.contains '-' then -exponent else exponent) - places }

/-- The number as a quotient. -/
def quotient (d : Decimal) : Nat × Nat :=
  match d.exponent with
  | .ofNat n => (d.digits * Nat.pow 10 n, 1)
  | .negSucc n => (d.digits, Nat.pow 10 (n + 1))

/-- The first number that is too large for a double: half a unit above the largest one. -/
def doubleBound : Nat := Nat.pow 2 1024 - Nat.pow 2 970

/-- Whether a number of at most `length` digits is so small that no double but zero is near. -/
def isTiny (length : Nat) (d : Decimal) : Bool := d.digits == 0 || d.exponent + length < -400

/-- Whether a number of at most `length` digits is small enough for a double.  Powers of ten are formed
only where the exponent leaves the answer open. -/
def fitsDouble (length : Nat) (d : Decimal) : Bool :=
  d.isTiny length || (d.exponent ≤ 400 &&
    match d.quotient with
    | (num, den) => num < doubleBound * den)

/-! ## Doubles -/

/-- The quotient of two numbers rounded to the nearest whole number, of two nearest ones to the even
one. -/
def roundQuotient (num den : Nat) : Nat :=
  let below := num / den
  let rest := num % den
  if 2 * rest < den || (2 * rest == den && below % 2 == 0) then below else below + 1

/-- How many units make one. -/
def unitsOfOne : Nat := Nat.pow 2 1074

/-- The double nearest to a quotient, in units.  It has at most 53 binary digits. -/
def nearestDouble (num den : Nat) : Nat :=
  let scaled := num * unitsOfOne
  let grain := Nat.pow 2 (Nat.log2 (scaled / den) - 52)
  roundQuotient scaled (den * grain) * grain

/-- The number with the given exponent next to a double, if the double is the one nearest to it. -/
def onGrid? (units : Nat) (exponent : Int) : Option Decimal :=
  match (Decimal.mk 1 exponent).quotient with
  | (num, den) =>
    let readsBack (digits : Nat) : Bool :=
      digits != 0 && nearestDouble (digits * num) den == units
    let below := units * den / (unitsOfOne * num)
    let nearest := roundQuotient (units * den) (unitsOfOne * num)
    ([nearest, below, below + 1].find? readsBack).map fun digits => ⟨digits, exponent⟩

/-- The shortest number that a double is nearest to, with an exponent of at most `exponent`. -/
def shortest (units : Nat) : Nat → Int → Decimal
  | 0, exponent => ⟨0, exponent⟩
  | steps + 1, exponent =>
    match onGrid? units exponent with
    | some d => d
    | none => shortest units steps (exponent - 1)

/-- The text of a number without a zero at the end of its digits: positional with a point if the point
stands at most sixteen places behind the first digit or five before it, and otherwise with an
exponent. -/
def text (d : Decimal) : String :=
  let digits := Nat.toDigits 10 d.digits
  let point := d.exponent + digits.length
  let zeros (n : Int) : List Char := List.replicate n.toNat '0'
  String.ofList <|
    if 0 ≤ d.exponent && point ≤ 16 then digits ++ zeros d.exponent ++ ['.', '0']
    else if 0 < point && point ≤ 16 then
      digits.take point.toNat ++ '.' :: digits.drop point.toNat
    else if -5 < point && point ≤ 0 then '0' :: '.' :: zeros (-point) ++ digits
    else
      let fraction := digits.drop 1
      digits.take 1 ++ (if fraction.isEmpty then [] else '.' :: fraction) ++
        'e' :: (toString (point - 1)).toList

end Decimal

/-- Whether a number is small enough for a double. -/
def fitsDouble (literal : String) : Bool :=
  (Decimal.ofLiteral literal).fitsDouble literal.length

/-- The text of the double nearest to a number: the fewest digits that lead back to it. -/
def doubleText (literal : String) : String :=
  let sign := if literal.toList.head? == some '-' then "-" else ""
  let d := Decimal.ofLiteral literal
  let units := if d.isTiny literal.length then 0 else
    match d.quotient with
    | (num, den) => Decimal.nearestDouble num den
  sign ++ if units = 0 then "0.0" else (Decimal.shortest units 660 308).text

end ContentFilter.Json
