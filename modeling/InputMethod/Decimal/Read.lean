import InputMethod.Decimal.Text

/-! # Reading floats

A float is written with an optional sign, then either `inf`, `infinity` or `nan` in any case, or
a decimal: digits with an optional point, at least one digit on one side of it, and an optional
exponent `e` or `E` with an optional sign and at least one digit. Nothing else is allowed, not
even blanks. The value is the float nearest to the decimal (`ofDecimal`); `nan` is the quiet
not-a-number with the sign written, which only the bits of the value show (`readBits?`).
-/

namespace InputMethod.Decimal

def leadingDigits (cs : List Char) : List Char × List Char :=
  (cs.takeWhile Char.isDigit, cs.dropWhile Char.isDigit)

/-- The value of decimal digits. -/
def digitsValue (ds : List Char) : Nat :=
  ds.foldl (fun n c => 10 * n + (c.toNat - '0'.toNat)) 0

def readExponent : List Char → Option Int
  | [] => some 0
  | e :: rest =>
    if e != 'e' && e != 'E' then none
    else
      let (negative, digits) := match rest with
        | '-' :: ds => (true, ds)
        | '+' :: ds => (false, ds)
        | ds => (false, ds)
      if digits.isEmpty || !digits.all Char.isDigit then none
      else
        let n : Int := digitsValue digits
        some (if negative then -n else n)

def quietNaNBits (negative : Bool) : UInt64 :=
  if negative then 0xFFF8000000000000 else 0x7FF8000000000000

/-- The bits of the float written in `s`, if it is written as the module says. Bits are the
    answer because they keep the sign of a not-a-number, which a `Float` does not. -/
def readBits? (s : String) : Option UInt64 :=
  let cs := s.toList
  let (negative, body) := match cs with
    | '-' :: rest => (true, rest)
    | '+' :: rest => (false, rest)
    | rest => (false, rest)
  let word := String.ofList (body.map Char.toLower)
  if word == "inf" || word == "infinity" then
    some (if negative then 0xFFF0000000000000 else 0x7FF0000000000000)
  else if word == "nan" then some (quietNaNBits negative)
  else
    let (whole, rest) := leadingDigits body
    let (fraction, rest) := match rest with
      | '.' :: more => leadingDigits more
      | _ => ([], rest)
    if whole.isEmpty && fraction.isEmpty then none
    else
      (readExponent rest).map fun exp =>
        (ofDecimal negative (digitsValue (whole ++ fraction)) (exp - fraction.length)).toBits

def readFloat? (s : String) : Option Float := (readBits? s).map Float.ofBits

end InputMethod.Decimal
