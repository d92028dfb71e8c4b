/-! # Sets of characters

A `CharSet` is a set of code points kept as ascending, disjoint and non-adjacent inclusive
ranges, so that two sets with the same members have the same ranges. Sets are built from any
list of ranges by `ofRanges`, which sorts and merges them; union, intersection, difference,
symmetric difference and complement (within `0 … 0x10FFFF`) keep that form.

Sets of the character data are written as texts (see `InputMethod.Unicode.Data`) and read back
by `decode`.
-/

namespace InputMethod.Unicode

def maxCodePoint : Nat := 0x10FFFF

def mergeSorted : List (Nat × Nat) → List (Nat × Nat)
  | [] => []
  | [r] => [r]
  | (a, b) :: (c, d) :: rest =>
    if c ≤ b + 1 then mergeSorted ((a, max b d) :: rest)
    else (a, b) :: mergeSorted ((c, d) :: rest)
termination_by rs => rs.length

/-- A set of code points as ascending, disjoint, non-adjacent inclusive ranges. -/
structure CharSet where
  ranges : List (Nat × Nat)
  deriving BEq, Inhabited

namespace CharSet

/-- The set of the code points in any of the given ranges; ranges with the start after the end
    are empty. -/
def ofRanges (rs : List (Nat × Nat)) : CharSet :=
  ⟨mergeSorted ((rs.filter fun r => r.1 ≤ r.2).mergeSort fun x y => x.1 ≤ y.1)⟩

/-- The empty set. -/
def empty : CharSet := ⟨[]⟩

/-- Every code point. -/
def full : CharSet := ⟨[(0, maxCodePoint)]⟩

/-- The one character `c`. -/
def single (c : Char) : CharSet := ⟨[(c.toNat, c.toNat)]⟩

/-- The code points from `a` to `b`. -/
def range (a b : Nat) : CharSet := ofRanges [(a, b)]

/-- Whether the set has no member. -/
def isEmpty (s : CharSet) : Bool := s.ranges.isEmpty

/-- The members of either set. -/
def union (s t : CharSet) : CharSet := ofRanges (s.ranges ++ t.ranges)

def gaps (next : Nat) : List (Nat × Nat) → List (Nat × Nat)
  | [] => if next ≤ maxCodePoint then [(next, maxCodePoint)] else []
  | (a, b) :: rest => (if next < a then [(next, a - 1)] else []) ++ gaps (b + 1) rest

def negate (s : CharSet) : CharSet := ⟨gaps 0 s.ranges⟩

/-- The members of both sets. -/
def inter (s t : CharSet) : CharSet :=
  ofRanges (s.ranges.flatMap fun (a, b) =>
    t.ranges.filterMap fun (c, d) => if max a c ≤ min b d then some (max a c, min b d) else none)

/-- The members of `s` that are not in `t`. -/
def diff (s t : CharSet) : CharSet := s.inter t.negate

def symDiff (s t : CharSet) : CharSet := (s.union t).diff (s.inter t)

def allBelow (bound : Nat) (s : CharSet) : Bool := s.ranges.all fun r => r.2 < bound

/-- The ranges as an array, for lookups by halving. -/
def toArray (s : CharSet) : Array (Nat × Nat) := s.ranges.toArray

end CharSet

def rangesContain (rs : Array (Nat × Nat)) (n lo hi : Nat) : Bool :=
  if _h : lo < hi then
    let mid := (lo + hi) / 2
    match rs[mid]? with
    | some (a, b) =>
      if n < a then rangesContain rs n lo mid
      else if b < n then rangesContain rs n (mid + 1) hi
      else true
    | none => false
  else false
termination_by hi - lo

/-- Whether `n` lies in one of the ascending ranges `rs`. -/
def Ranges.contains (rs : Array (Nat × Nat)) (n : Nat) : Bool := rangesContain rs n 0 rs.size

/-! ## Reading sets written as text -/

def hexDigit (c : Char) : Nat :=
  if '0' ≤ c ∧ c ≤ '9' then c.toNat - '0'.toNat
  else if 'a' ≤ c ∧ c ≤ 'f' then c.toNat - 'a'.toNat + 10
  else if 'A' ≤ c ∧ c ≤ 'F' then c.toNat - 'A'.toNat + 10
  else 0

/-- The number written by hexadecimal digits. -/
def hexValue (s : String) : Nat := s.toList.foldl (fun n c => 16 * n + hexDigit c) 0

def decodeItem (s : String) : Option (Nat × Nat) :=
  match s.splitOn "-" with
  | [a] => if a.isEmpty then none else some (hexValue a, hexValue a)
  | [a, b] => some (hexValue a, hexValue b)
  | _ => none

/-- The set written as comma-separated items. -/
def decode (s : String) : CharSet := CharSet.ofRanges ((s.splitOn ",").filterMap decodeItem)

end InputMethod.Unicode
