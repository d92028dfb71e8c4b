/-! # Shortest decimals of binary64 values

The reals that round to a finite binary64 value `m · 2^q` form an interval reaching halfway
to each neighbouring value, its ends included exactly when `m` is even. A decimal *reads back*
when it lies in that interval. `Decimal.shortest` selects, by exact arithmetic on naturals,
the decimal with the fewest significant digits that reads back; of two equally short ones the
nearer, and an exact tie as the caller's `Tie` says.

* `Binary.ofBits` decodes the bits of a finite value;
* `Binary.readsBack` is the interval test;
* `Binary.shortest` is the search over grids of 1, 2, … 17 significant digits.
-/

namespace InputMethod.Decimal

/-- A finite non-negative binary64 value `m · 2^q`. -/
structure Binary where
  m : Nat
  q : Int
  narrowBelow : Bool

/-- A decimal `digits · 10^exp`. -/
structure Dec where
  digits : Nat
  exp : Int
  deriving Repr, DecidableEq

/-- Which of two equally near candidates is taken. -/
inductive Tie where
  | toEven
  | up

/-- The magnitude of the value with the given bits; NaN and the infinities must be tested for
    before. -/
def Binary.ofBits (b : UInt64) : Binary :=
  let e := ((b >>> 52) &&& 0x7FF).toNat
  let f := (b &&& 0xFFFFFFFFFFFFF).toNat
  if e == 0 then ⟨f, -1074, false⟩ else ⟨Nat.pow 2 52 + f, (e : Int) - 1075, f == 0 && e > 1⟩

def cmpScaled (a : Nat) (i : Int) (n : Nat) (j : Int) : Ordering :=
  compare (a * Nat.pow 10 i.toNat * Nat.pow 2 (-j).toNat) (n * Nat.pow 2 j.toNat * Nat.pow 10 (-i).toNat)

/-- Whether `d` lies among the reals that round to `x` (to nearest, ties to even). -/
def Binary.readsBack (x : Binary) (d : Dec) : Bool :=
  let lo := if x.narrowBelow then 4 * x.m - 1 else 4 * x.m - 2
  let hi := 4 * x.m + 2
  let incl := x.m % 2 == 0
  let cl := cmpScaled d.digits d.exp lo (x.q - 2)
  let ch := cmpScaled d.digits d.exp hi (x.q - 2)
  (cl == .gt || (incl && cl == .eq)) && (ch == .lt || (incl && ch == .eq))

def bitLength (n : Nat) : Nat := n.log2 + 1

def Binary.scale (x : Binary) : Int :=
  -- `log10 2 < 0.30103`, so the estimate is never more than two too small or one too large
  let est : Int := ((bitLength x.m : Int) + x.q) * 30103 / 100000
  let below (k : Int) : Bool := cmpScaled 1 k x.m x.q == .gt
  let k0 := est - 2
  if below k0 then k0
  else if below (k0 + 1) then k0 + 1
  else if below (k0 + 2) then k0 + 2
  else if below (k0 + 3) then k0 + 3
  else k0 + 4

def Binary.floorOnGrid (x : Binary) (g : Int) : Nat :=
  (x.m * Nat.pow 2 x.q.toNat * Nat.pow 10 (-g).toNat) / (Nat.pow 2 (-x.q).toNat * Nat.pow 10 g.toNat)

def Dec.strip (d : Dec) : Dec :=
  if h : d.digits ≠ 0 ∧ d.digits % 10 = 0 then Dec.strip ⟨d.digits / 10, d.exp + 1⟩ else d
termination_by d.digits
decreasing_by exact Nat.div_lt_self (Nat.pos_of_ne_zero h.1) (by decide)

def Binary.pickOnGrid (x : Binary) (tie : Tie) (g : Int) : Option Dec :=
  let lo := x.floorOnGrid g
  let a : Dec := ⟨lo, g⟩
  let b : Dec := ⟨lo + 1, g⟩
  match x.readsBack a, x.readsBack b with
  | false, false => none
  | true, false => some a
  | false, true => some b
  | true, true =>
    -- twice the value against the sum of the two neighbours
    match cmpScaled (2 * lo + 1) g (2 * x.m) x.q with
    | .gt => some a
    | .lt => some b
    | .eq =>
      match tie with
      | .toEven => if lo % 2 == 0 then some a else some b
      | .up => some b

/-- The shortest decimal that reads back to `x > 0`, trailing zeros stripped. If seventeen
    digits should not suffice, the exact value is answered. -/
def Binary.shortest (x : Binary) (tie : Tie) : Dec :=
  let k := x.scale
  match (List.range 17).findSome? (fun n => x.pickOnGrid tie (k - (n + 1 : Nat))) with
  | some d => d.strip
  | none =>
    -- the exact value m · 2^q = m · 5^-q · 10^q for negative q
    if 0 ≤ x.q then Dec.strip ⟨x.m * Nat.pow 2 x.q.toNat, 0⟩ else Dec.strip ⟨x.m * Nat.pow 5 (-x.q).toNat, x.q⟩

/-! ## Floats -/

/-- What a binary64 value is: not a number, an infinity, or a finite value with its sign. -/
inductive Kind where
  | nan
  | infinite (negative : Bool)
  | finite (negative : Bool) (x : Binary)

/-- The kind of a float, read off its bits. -/
def kindOf (f : Float) : Kind :=
  let b := f.toBits
  let negative := b >>> 63 == 1
  let e := (b >>> 52) &&& 0x7FF
  let frac := b &&& 0xFFFFFFFFFFFFF
  if e == 0x7FF then (if frac == 0 then .infinite negative else .nan)
  else .finite negative (Binary.ofBits b)

/-- A key on naturals, for the bits of a binary64 value, whose order is the total order of
    floats: negative NaNs first, then negative infinity, the negative values, `-0.0`, `+0.0`,
    the positive values, positive infinity and positive NaNs. -/
def keyOfBits (bits : UInt64) : Nat :=
  let b := bits.toNat
  if b < Nat.pow 2 63 then b + Nat.pow 2 63 else Nat.pow 2 64 - 1 - b

/-- The total-order key of a float (`keyOfBits` of its bits). -/
def totalKey (f : Float) : Nat := keyOfBits f.toBits

end InputMethod.Decimal
