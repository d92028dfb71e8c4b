/-! # Seeded random numbers

A generator of 32-bit words from a 64-bit seed, and uniform choices made with it:

* the seed is stretched to a 256-bit key by eight steps of the PCG32 generator (multiplier
  6364136223846793005, increment 11634580027462260723, xorshift-high then random rotation);
* the words are the ChaCha keystream with 12 rounds under that key, with a zero nonce and the
  block counter from zero: word `k` is word `k % 16` of block `k / 16`;
* an index below `n` is drawn by multiplying a word by `n`: the high half of the product is the
  index, and a word is drawn again while the low half lies above `(n <<< lz n) - 1`, where
  `lz n` counts the leading zero bits of `n` as a 32-bit word.

The same seed gives the same words, so conversions that choose at random can be replayed.

A generator draws its indices through its `Sampler`, a way of drawing an index below `n` from
the keystream, of which nothing is relied on but that a draw below one is zero. `Sampler.capped`
is the draw above, which gives up redrawing after `drawLimit` words and takes the last one; a
draw that redraws until a word is accepted reaches that limit with probability below
`2 ^ (-64)`.
-/

namespace InputMethod.Random

def rotl (x : UInt32) (n : UInt32) : UInt32 := (x <<< n) ||| (x >>> (32 - n))

def rotr (x : UInt32) (n : UInt32) : UInt32 := (x >>> n) ||| (x <<< (32 - n))

def quarter (s : Array UInt32) (a b c d : Nat) : Array UInt32 :=
  let s := s.set! a (s[a]! + s[b]!)
  let s := s.set! d (rotl (s[d]! ^^^ s[a]!) 16)
  let s := s.set! c (s[c]! + s[d]!)
  let s := s.set! b (rotl (s[b]! ^^^ s[c]!) 12)
  let s := s.set! a (s[a]! + s[b]!)
  let s := s.set! d (rotl (s[d]! ^^^ s[a]!) 8)
  let s := s.set! c (s[c]! + s[d]!)
  s.set! b (rotl (s[b]! ^^^ s[c]!) 7)

def doubleRound (s : Array UInt32) : Array UInt32 :=
  let s := quarter s 0 4 8 12
  let s := quarter s 1 5 9 13
  let s := quarter s 2 6 10 14
  let s := quarter s 3 7 11 15
  let s := quarter s 0 5 10 15
  let s := quarter s 1 6 11 12
  let s := quarter s 2 7 8 13
  quarter s 3 4 9 14

/-- Block `counter` of the 12-round ChaCha keystream under an eight-word key, nonce zero. -/
def block (key : Array UInt32) (counter : Nat) : Array UInt32 :=
  let init : Array UInt32 := #[0x61707865, 0x3320646e, 0x79622d32, 0x6b206574] ++ key ++
    #[(counter % Nat.pow 2 32).toUInt32, (counter / Nat.pow 2 32 % Nat.pow 2 32).toUInt32, 0, 0]
  let mixed := (List.range 6).foldl (fun s _ => doubleRound s) init
  Array.zipWith (· + ·) mixed init

def pcgStep (state : UInt64) : UInt64 × UInt32 :=
  let state := state * 6364136223846793005 + 11634580027462260723
  let xorshifted := (((state >>> 18) ^^^ state) >>> 27).toUInt32
  let rot := (state >>> 59).toUInt32
  (state, rotr xorshifted rot)

def keyOfSeed (seed : UInt64) : Array UInt32 :=
  ((List.range 8).foldl (fun (acc : UInt64 × Array UInt32) _ =>
      let (state, w) := pcgStep acc.1
      (state, acc.2.push w))
    (seed, #[])).2

def keystream (key : Array UInt32) (k : Nat) : UInt32 :=
  (block key (k / 16)).getD (k % 16) 0

/-- How many words a draw below `n` may try before it takes the last one; each try is
    rejected with probability below one half. -/
def drawLimit : Nat := 64

def belowLoop (words : Nat → UInt32) (n zone : Nat) : Nat → Nat → Nat × Nat
  | 0, next => (0, next)
  | tries + 1, next =>
    let product := (words next).toNat * n
    if product % Nat.pow 2 32 ≤ zone || tries == 0 then (product / Nat.pow 2 32, next + 1)
    else belowLoop words n zone tries (next + 1)

def belowCapped (words : Nat → UInt32) (next n : Nat) : Nat × Nat :=
  let leadingZeros := 31 - Nat.log2 n
  let zone := (n * Nat.pow 2 leadingZeros) % Nat.pow 2 32 - 1
  belowLoop words n zone drawLimit next

theorem belowLoop_one (words : Nat → UInt32) (zone : Nat) :
    ∀ (tries next : Nat), (belowLoop words 1 zone tries next).1 = 0
  | 0, _ => rfl
  | tries + 1, next => by
    have small : (words next).toNat * 1 / Nat.pow 2 32 = 0 :=
      Nat.div_eq_of_lt (by simpa using (words next).toNat_lt)
    simp only [belowLoop]
    split
    · exact small
    · exact belowLoop_one words zone tries (next + 1)

/-- A way of drawing an index below `n` from the words of a keystream, given the word at each
    position and the position of the next one: the index and the position after the words
    used. A draw below one is zero. -/
structure Sampler where
  below : (Nat → UInt32) → Nat → Nat → Nat × Nat
  below_one : ∀ words next, (below words next 1).1 = 0

/-- The draw of `belowCapped`, redrawing at most `drawLimit` times. -/
def Sampler.capped : Sampler where
  below := belowCapped
  below_one words next := belowLoop_one words _ _ next

/-- A generator: its key, the position of its next word in the keystream, and the way it draws
    indices from the words. -/
structure Generator where
  key : Array UInt32
  next : Nat := 0
  sampler : Sampler := .capped

namespace Generator

/-- The generator of a seed. -/
def ofSeed (seed : UInt64) : Generator := { key := keyOfSeed seed }

/-- An index below `n`, and the generator past the words the draw used. -/
def below (g : Generator) (n : Nat) : Nat × Generator :=
  let (i, next) := g.sampler.below (keystream g.key) g.next n
  (i, { g with next })

/-- One item of a list, every one equally likely; nothing is drawn from an empty list. -/
def choose {α : Type} (g : Generator) (xs : List α) : Option α × Generator :=
  if xs.isEmpty then (none, g)
  else
    let (i, g) := g.below xs.length
    (xs[i]?, g)

end Generator

end InputMethod.Random
