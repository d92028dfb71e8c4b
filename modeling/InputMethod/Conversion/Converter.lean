import InputMethod.Conversion.Dictionary
import InputMethod.Text.Quoted

/-! # Converting text through dictionaries

A `Conversion` walks a text from left to right: where a key of its dictionary is a prefix of
the rest, it writes a value that a *pick* chooses for that entry and steps over the key;
elsewhere, or when the pick chooses nothing, it copies one character. The default pick is the
entry's first value.

A `Converter` runs its conversions one after another. With a segmenting dictionary it first
cuts the text by greedy maximum match: each key found at the current position is a piece of its
own, and the characters between keys are grouped into one piece; the conversions then run on
each piece apart.
-/

namespace InputMethod

/-- One conversion stage: greedy longest-prefix conversion through a dictionary. -/
structure Conversion where
  dict : Dictionary

namespace Conversion

/-- The entry matched at the start of `rest` together with the value `pick` chooses for it. -/
def step (c : Conversion) (pick : Entry → Option String) (rest : List Char) : Option (Entry × String) :=
  match c.dict.matchPrefix (String.ofList rest) with
  | some e => if 0 < e.keyLength then (pick e).map (e, ·) else none
  | none => none

/-- Convert the characters `rest` with values chosen by `pick`. -/
def walk (c : Conversion) (pick : Entry → Option String) : List Char → String
  | [] => ""
  | ch :: cs =>
    match c.step pick (ch :: cs) with
    | some (e, v) => v ++ walk c pick (cs.drop (e.key.length - 1))
    | none => ch.toString ++ walk c pick cs
termination_by rest => rest.length
decreasing_by
  · simp only [List.length_drop, List.length_cons]; omega
  · simp only [List.length_cons]; omega

/-- Convert `phrase`, writing what `pick` chooses for each match. -/
def convertWith (c : Conversion) (pick : Entry → Option String) (phrase : String) : String :=
  c.walk pick phrase.toList

/-- Convert `phrase` with the default value of each match. -/
def convert (c : Conversion) (phrase : String) : String := c.convertWith Entry.default phrase

end Conversion

/-- Cut a text by greedy maximum match: keys found at the current position are pieces of their
    own, and the characters between them are grouped into one piece. -/
def maxMatch (d : Dictionary) (text : String) : List String :=
  go [] text.toList
where
  go (pending : List Char) : List Char → List String
    | [] => if pending.isEmpty then [] else [String.ofList pending.reverse]
    | ch :: cs =>
      match d.matchPrefix (String.ofList (ch :: cs)) with
      | some e =>
        if 0 < e.keyLength then
          (if pending.isEmpty then [] else [String.ofList pending.reverse]) ++
            e.key :: go [] (cs.drop (e.key.length - 1))
        else go (ch :: pending) cs
      | none => go (ch :: pending) cs
  termination_by rest => rest.length
  decreasing_by
    · simp only [List.length_drop, List.length_cons]; omega
    · simp only [List.length_cons]; omega
    · simp only [List.length_cons]; omega

/-- A loaded conversion: a name, an optional segmenting dictionary and the conversion stages. -/
structure Converter where
  name : String := ""
  segmenter : Option Dictionary := none
  stages : List Conversion := []

namespace Converter

/-- Run the stages one after another on `text`. -/
def chain (cv : Converter) (text : String) : String :=
  cv.stages.foldl (fun t c => c.convert t) text

/-- Convert `text`: piece by piece when there is a segmenting dictionary. -/
def convert (cv : Converter) (text : String) : String :=
  match cv.segmenter with
  | some d => String.join ((maxMatch d text).map cv.chain)
  | none => cv.chain text

/-- The converter as its name, whether it segments, and its number of stages. -/
def describe (cv : Converter) : String :=
  "Converter \x7b name: " ++ Text.quote cv.name ++ ", segmentation: " ++
    (if cv.segmenter.isSome then "true" else "false") ++ ", conversions: " ++
    toString cv.stages.length ++ " \x7d"

end Converter

end InputMethod
