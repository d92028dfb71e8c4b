import InputMethod.Unicode.Data
import InputMethod.Unicode.CharSet

/-! # Unicode properties by name

Patterns name sets of characters by Unicode properties: `\pL`, `\p{Greek}`, `\p{gc=Nd}`,
`\p{Alphabetic}`. Names are compared in *loose* form: ASCII letters lowered, spaces,
underscores and hyphens dropped, other non-ASCII characters dropped, and a leading `is`
ignored. A bare name is tried as a binary property, then as a general category, then as a
script; `name=value` looks the value up under the named property, which is one of the general
category, the script and script extensions, the age, and the grapheme, word and sentence break
classes. An age stands for every character assigned by that version or an earlier one.

Also here: the sets behind `\d`, `\s` and `\w`, and simple case folding of a set.
-/

namespace InputMethod.Unicode

/-- Why a property query names no set. -/
inductive PropertyError where
  | propertyNotFound
  | valueNotFound
  deriving BEq, Inhabited

def looseName (s : String) : String :=
  let cs := s.toList
  let (cs, hadIs) := match cs with
    | a :: b :: rest => if a.toLower == 'i' && b.toLower == 's' then (rest, true) else (cs, false)
    | _ => (cs, false)
  let kept := cs.filterMap fun c =>
    if c == ' ' || c == '_' || c == '-' then none
    else if 'A' ≤ c ∧ c ≤ 'Z' then some c.toLower
    else if c.toNat ≤ 0x7F then some c
    else none
  if hadIs && kept == ['c'] then "isc" else String.ofList kept

def findNames (rows : List (List String)) (name : String) : Option (List String) :=
  rows.find? fun row => row.any fun n => looseName n == name

def canonicalProperty (name : String) : Option String :=
  (propertyNames.find? fun p => looseName p.1 == name).map Prod.snd

def canonicalCategory (name : String) : Option String :=
  if name == "any" then some "Any"
  else if name == "assigned" then some "Assigned"
  else if name == "ascii" then some "ASCII"
  else (findNames categoryNames name).bind fun row => row[1]?

def canonicalScript (name : String) : Option String :=
  (findNames scriptNames name).bind fun row => row[1]?

def tableSet (table : List (String × String)) (name : String) : Option CharSet :=
  (table.find? (·.1 == name)).map fun e => decode e.2

def categoryShortName (long : String) : String :=
  ((categoryNames.find? fun row => row[1]? == some long).bind List.head?).getD long

def categoriesSet (shorts : List String) : CharSet :=
  shorts.foldl (fun acc s => acc.union ((tableSet categoryTable s).getD CharSet.empty)) CharSet.empty

def categoryMembers (short : String) : List String :=
  match short with
  | "L" => ["Lu", "Ll", "Lt", "Lm", "Lo"]
  | "LC" => ["Lu", "Ll", "Lt"]
  | "M" => ["Mn", "Mc", "Me"]
  | "N" => ["Nd", "Nl", "No"]
  | "P" => ["Pc", "Pd", "Ps", "Pe", "Pi", "Pf", "Po"]
  | "S" => ["Sm", "Sc", "Sk", "So"]
  | "Z" => ["Zs", "Zl", "Zp"]
  | "C" => ["Cc", "Cf", "Cn", "Co"]
  | s => [s]

def categorySet (canonical : String) : CharSet :=
  match canonical with
  | "Any" => CharSet.full
  | "ASCII" => CharSet.range 0 0x7F
  | "Assigned" => (categoriesSet ["Cn"]).negate
  | long => categoriesSet (categoryMembers (categoryShortName long))

def digitSet : CharSet := categoriesSet ["Nd"]

def spaceSet : CharSet := (tableSet booleanTable "White_Space").getD CharSet.empty

def wordSet : CharSet := decode wordRanges

def wordArray : Array (Nat × Nat) := wordSet.toArray

def isWordChar (c : Char) : Bool := Ranges.contains wordArray c.toNat

def booleanSet (canonical : String) : Except PropertyError CharSet :=
  match canonical with
  | "White_Space" => .ok spaceSet
  | name => match tableSet booleanTable name with
    | some s => .ok s
    | none => .error .propertyNotFound

def bareSet (name : String) : Except PropertyError CharSet :=
  let norm := looseName name
  let asProperty := if norm == "cf" || norm == "sc" || norm == "lc" then none
    else canonicalProperty norm
  match asProperty with
  | some p => booleanSet p
  | none =>
    match canonicalCategory norm with
    | some c => .ok (categorySet c)
    | none =>
      match canonicalScript norm with
      | some s => match tableSet scriptTable s with
        | some set => .ok set
        | none => .error .valueNotFound
      | none => .error .propertyNotFound

def canonicalValue (rows : List (List String)) (name : String) : Option String :=
  (findNames rows name).bind fun row => row[1]?

def ageSet (canonical : String) : Option CharSet :=
  match ageTable.findIdx? (·.1 == canonical) with
  | some i => some (CharSet.ofRanges ((ageTable.take (i + 1)).flatMap fun e => (decode e.2).ranges))
  | none => none

def classSet (rows : List (List String)) (table : List (String × String)) (value : String) :
    Except PropertyError CharSet :=
  match (canonicalValue rows value).bind (tableSet table) with
  | some s => .ok s
  | none => .error .valueNotFound

def valueSet (name value : String) : Except PropertyError CharSet :=
  let value := looseName value
  match canonicalProperty (looseName name) with
  | none => .error .propertyNotFound
  | some "General_Category" =>
    match canonicalCategory value with
    | some c => .ok (categorySet c)
    | none => .error .valueNotFound
  | some "Script" =>
    match (canonicalScript value).bind (tableSet scriptTable) with
    | some s => .ok s
    | none => .error .valueNotFound
  | some "Script_Extensions" =>
    match (canonicalScript value).bind (tableSet scriptExtensionTable) with
    | some s => .ok s
    | none => .error .valueNotFound
  | some "Age" =>
    match (canonicalValue ageNames value).bind ageSet with
    | some s => .ok s
    | none => .error .valueNotFound
  | some "Grapheme_Cluster_Break" => classSet graphemeBreakNames graphemeBreakTable value
  | some "Word_Break" => classSet wordBreakNames wordBreakTable value
  | some "Sentence_Break" => classSet sentenceBreakNames sentenceBreakTable value
  | some _ => .error .valueNotFound

/-! ## Simple case folding -/

def foldPairs : Array (Nat × List Nat) :=
  let classes := ((foldClasses.splitOn ",").map fun g => (g.splitOn " ").map hexValue)
  let pairs := classes.flatMap fun cls => cls.map fun c => (c, cls.filter (· != c))
  (pairs.mergeSort fun x y => x.1 ≤ y.1).toArray

def foldLowerBound (n lo hi : Nat) : Nat :=
  if _h : lo < hi then
    let mid := (lo + hi) / 2
    match foldPairs[mid]? with
    | some (c, _) => if c < n then foldLowerBound n (mid + 1) hi else foldLowerBound n lo mid
    | none => lo
  else lo
termination_by hi - lo

def foldRange (a b : Nat) : List (Nat × Nat) :=
  let start := foldLowerBound a 0 foldPairs.size
  ((foldPairs.toList.drop start).takeWhile (·.1 ≤ b)).flatMap fun e => e.2.map fun c => (c, c)

def CharSet.foldSimple (s : CharSet) : CharSet :=
  CharSet.ofRanges (s.ranges ++ s.ranges.flatMap fun r => foldRange r.1 r.2)

def hasFold (c : Char) : Bool := !(foldRange c.toNat c.toNat).isEmpty

def CharSet.foldAscii (s : CharSet) : CharSet :=
  let upper := s.inter (CharSet.range 0x41 0x5A)
  let lower := s.inter (CharSet.range 0x61 0x7A)
  CharSet.ofRanges (s.ranges ++ upper.ranges.map (fun r => (r.1 + 32, r.2 + 32)) ++
    lower.ranges.map (fun r => (r.1 - 32, r.2 - 32)))

end InputMethod.Unicode
