import InputMethod.Decimal.Shortest

/-! # Decimal text of floats

How a selected decimal is laid out, as one record of decisions (`Notation`), and a fixed number
of places after the point (`fixed`), which rounds the exact binary value with ties to even.
Reading goes the other way: `ofDecimal` turns digits and an exponent into the nearest float.
-/

namespace InputMethod.Decimal

/-- The layout decisions for shortest decimals. Integral values keep a `.0`, the exponent is
    written `e` with its sign, zero keeps its sign, and not-a-number and infinity are `NaN` and
    `inf`. -/
structure Notation where
  plainFrom : Int
  plainBelow : Int
  tie : Tie
  plusSign : Bool := false

/-- Numbers in answers: positional from `1e-5` up to below `1e16`, ties to even. -/
def Notation.plain : Notation where
  plainFrom := -5
  plainBelow := 16
  tie := .toEven

def Notation.jsonError : Notation :=
  { Notation.plain with plusSign := true }

def Notation.inspect : Notation where
  plainFrom := -4
  plainBelow := 16
  tie := .up

def Notation.positional : Notation where
  plainFrom := -400
  plainBelow := 400
  tie := .up

/-- `n` zeros. -/
def zeros (n : Nat) : String := String.ofList (List.replicate n '0')

def Notation.layout (fmt : Notation) (d : Dec) : String :=
  let ds := toString d.digits
  let len := ds.length
  let e : Int := (len : Int) - 1 + d.exp
  if fmt.plainFrom ≤ e ∧ e < fmt.plainBelow then
    if 0 ≤ d.exp then ds ++ zeros d.exp.toNat ++ ".0"
    else if 0 ≤ e then
      let cut := (e + 1).toNat
      String.ofList (ds.toList.take cut) ++ "." ++ String.ofList (ds.toList.drop cut)
    else "0." ++ zeros (-e - 1).toNat ++ ds
  else
    let mantissa := match ds.toList with
      | c :: rest@(_ :: _) => String.ofList (c :: '.' :: rest)
      | cs => String.ofList cs
    mantissa ++ "e" ++ (if fmt.plusSign && 0 < e then "+" else "") ++ toString e

/-- A float as its shortest decimal in the notation's layout. -/
def Notation.render (fmt : Notation) (f : Float) : String :=
  match kindOf f with
  | .nan => "NaN"
  | .infinite negative => if negative then "-inf" else "inf"
  | .finite negative x =>
    let body := if x.m == 0 then "0.0" else fmt.layout (x.shortest fmt.tie)
    if negative then "-" ++ body else body

def roundHalfEven (num den : Nat) : Nat :=
  let q := num / den
  let r := num % den
  match compare (2 * r) den with
  | .lt => q
  | .gt => q + 1
  | .eq => if q % 2 == 0 then q else q + 1

/-- A float with `places` digits after the point: the exact binary value rounded, ties to even,
    and the sign kept also where the digits are all zero. -/
def fixed (places : Nat) (f : Float) : String :=
  match kindOf f with
  | .nan => "NaN"
  | .infinite negative => if negative then "-inf" else "inf"
  | .finite negative x =>
    let n := roundHalfEven (x.m * Nat.pow 2 x.q.toNat * Nat.pow 10 places) (Nat.pow 2 (-x.q).toNat)
    let ds := toString n
    let ds := zeros (places + 1 - ds.length) ++ ds
    let cut := ds.length - places
    let body := String.ofList (ds.toList.take cut) ++
      (if places = 0 then "" else "." ++ String.ofList (ds.toList.drop cut))
    if negative then "-" ++ body else body

def decimalLength (n : Nat) : Nat := (toString n).length

/-- The float nearest to `mantissa · 10^exp`, negated when `negative`. Exponents far beyond the
    range of floats give infinity or zero without computing the power. -/
def ofDecimal (negative : Bool) (mantissa : Nat) (exp : Int) : Float :=
  let magnitude : Float :=
    if mantissa = 0 then 0.0
    else
      let lead := (decimalLength mantissa : Int) + exp
      if 311 < lead then Float.ofScientific 1 false 400
      else if lead < -330 then 0.0
      else Float.ofScientific mantissa (exp < 0) exp.natAbs
  if negative then -magnitude else magnitude

end InputMethod.Decimal
