import InputMethod.Grammar.Bigram

/-! # Binary bigram models

The binary form of a model: the heads as a map, then the totals as a map. A map is its number
of entries as an unsigned 64-bit little-endian integer followed by the entries; a text is its
byte length (64-bit) followed by its UTF-8 bytes; a follower list is its length (64-bit) followed
by each word and its 32-bit little-endian count. Bytes after the model are ignored, and a key
given twice in a map keeps its last value.

Decoding reports running out of bytes, and a text that is no UTF-8 with where its bytes stop
being UTF-8.
-/

namespace InputMethod.Bigram

def utf8Fault (bytes : List UInt8) : Option (Nat × Option Nat) :=
  go bytes 0
where
  isCont (b : UInt8) : Bool := 0x80 ≤ b && b ≤ 0xBF
  check (first : List (UInt8 × UInt8)) (rest : List UInt8) : Option (Option Nat) :=
    -- `none`: the sequence is good; `some e`: the fault with its length
    let rec walk : List (UInt8 × UInt8) → List UInt8 → Nat → Option (Option Nat)
      | [], _, _ => none
      | _ :: _, [], _ => some none
      | (lo, hi) :: more, b :: bs, k => if lo ≤ b && b ≤ hi then walk more bs (k + 1) else some (some k)
    walk first rest 1
  go : List UInt8 → Nat → Option (Nat × Option Nat)
    | [], _ => none
    | b :: rest, i =>
      if b < 0x80 then go rest (i + 1)
      else
        let ranges : Option (List (UInt8 × UInt8)) :=
          if 0xC2 ≤ b && b ≤ 0xDF then some [(0x80, 0xBF)]
          else if b == 0xE0 then some [(0xA0, 0xBF), (0x80, 0xBF)]
          else if 0xE1 ≤ b && b ≤ 0xEC then some [(0x80, 0xBF), (0x80, 0xBF)]
          else if b == 0xED then some [(0x80, 0x9F), (0x80, 0xBF)]
          else if 0xEE ≤ b && b ≤ 0xEF then some [(0x80, 0xBF), (0x80, 0xBF)]
          else if b == 0xF0 then some [(0x90, 0xBF), (0x80, 0xBF), (0x80, 0xBF)]
          else if 0xF1 ≤ b && b ≤ 0xF3 then some [(0x80, 0xBF), (0x80, 0xBF), (0x80, 0xBF)]
          else if b == 0xF4 then some [(0x80, 0x8F), (0x80, 0xBF), (0x80, 0xBF)]
          else none
        match ranges with
        | none => some (i, some 1)
        | some rs =>
          match check rs rest with
          | some fault => some (i, fault)
          | none => go (rest.drop rs.length) (i + 1 + rs.length)
  termination_by bs => bs.length
  decreasing_by
    all_goals simp only [List.length_drop, List.length_cons]
    all_goals omega

def utf8FaultMessage : Nat × Option Nat → String
  | (valid, some n) => "invalid utf-8 sequence of " ++ toString n ++ " bytes from index " ++ toString valid
  | (valid, none) => "incomplete utf-8 byte sequence from index " ++ toString valid

/-- A decoding step: the rest of the bytes, or what went wrong. -/
abbrev Decode (α : Type) := List UInt8 → Except String (α × List UInt8)

def endOfInput : String := "io error: failed to fill whole buffer"

def readUInt (width : Nat) : Decode Nat := fun bs =>
  if bs.length < width then .error endOfInput
  else .ok ((bs.take width).foldr (fun b n => 256 * n + b.toNat) 0, bs.drop width)

/-- A length-prefixed UTF-8 text. -/
def readText : Decode String := fun bs => do
  let (len, bs) ← readUInt 8 bs
  if bs.length < len then throw endOfInput
  let raw := bs.take len
  match utf8Fault raw with
  | some fault => throw ("string is not valid utf8: " ++ utf8FaultMessage fault)
  | none =>
    match String.fromUTF8? (ByteArray.mk raw.toArray) with
    | some s => pure (s, bs.drop len)
    | none => throw "string is not valid utf8"

def readMany {α : Type} (item : Decode α) : Nat → Decode (List α)
  | 0 => fun bs => .ok ([], bs)
  | n + 1 => fun bs => do
    let (a, bs) ← item bs
    let (rest, bs) ← readMany item n bs
    pure (a :: rest, bs)

def readSeq {α : Type} (item : Decode α) : Decode (List α) := fun bs => do
  let (n, bs) ← readUInt 8 bs
  -- every item takes at least one byte, so a longer count runs out of bytes
  readMany item (min n (bs.length + 1)) bs

def readMap {α : Type} (value : Decode α) : Decode (List (String × α)) := fun bs => do
  let (entries, bs) ← readSeq (fun bs => do
    let (k, bs) ← readText bs
    let (v, bs) ← value bs
    pure ((k, v), bs)) bs
  pure (entries.foldl (fun acc (k, v) => Model.setAt k (fun _ => v) acc) [], bs)

def ofBinary (bytes : List UInt8) : Except String Model := do
  let (heads, bs) ← readMap (readSeq fun bs => do
    let (w, bs) ← readText bs
    let (c, bs) ← readUInt 4 bs
    pure (⟨w, c⟩, bs)) bytes
  let (totals, _) ← readMap (readUInt 4) bs
  pure { heads, totals }

def loadBinary (fs : Files) (path : String) : Except LoadError Model :=
  match fs.readBytes path with
  | .ok bytes =>
    match ofBinary bytes.toList with
    | .ok m => .ok m
    | .error message => .error (.decode path message)
  | .error .isDirectory => .error (.decode path ("io error: " ++ FileError.isDirectory.message))
  | .error e => .error (.openFailed path e)

end InputMethod.Bigram
