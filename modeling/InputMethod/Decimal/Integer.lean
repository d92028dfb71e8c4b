/-! # Reading unsigned integers

An unsigned integer is written as decimal digits with an optional leading `+`; nothing else is
allowed, not even blanks. A reading names why it fails: no digits at all, a character that is
no digit, or a value past the width.
-/

namespace InputMethod.Decimal

/-- Why a text is no unsigned integer of the wanted width. -/
inductive IntError where
  | empty
  | invalidDigit
  | tooLarge

/-- How a failed reading is described. -/
def IntError.message : IntError → String
  | .empty => "cannot parse integer from empty string"
  | .invalidDigit => "invalid digit found in string"
  | .tooLarge => "number too large to fit in target type"

/-- The unsigned integer of `bits` bits written in `s`. -/
def readUnsigned (bits : Nat) (s : String) : Except IntError Nat :=
  let cs := s.toList
  let digits := match cs with
    | '+' :: rest => rest
    | _ => cs
  if cs.isEmpty then .error .empty
  else if digits.isEmpty || !digits.all Char.isDigit then .error .invalidDigit
  else
    let n := digits.foldl (fun n c => 10 * n + (c.toNat - '0'.toNat)) 0
    if n < Nat.pow 2 bits then .ok n else .error .tooLarge

end InputMethod.Decimal
