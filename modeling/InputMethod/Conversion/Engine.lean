import InputMethod.Conversion.Config
import InputMethod.Random

/-! # Conversion engines

An engine stands for one configuration file and loads it on first use. A load that fails, or
that gives a converter without conversions, leaves the engine unready, and the next use tries
again; an unready engine converts nothing. Loading reads the files as they are at that moment.

An engine converts in three ways, each answering nothing for the empty text:

* `convertText`: the converter's default conversion, when it changes the text;
* `forms`: every form a word may take, stage by stage: a word that a stage's dictionary holds
  as a whole key becomes all of its values, any other word its default conversion; answered
  when some stage held a word;
* `convertRandomly`: the stages with a value chosen at random for each match (from the engine's
  seeded generator), when that changes the text.
-/

namespace InputMethod

def addNew (acc : List String) (v : String) : List String :=
  if acc.contains v then acc else acc ++ [v]

namespace Converter

/-- Every form `text` may take through the stages, when some stage holds a form as a whole key
    with at least one value. -/
def forms (cv : Converter) (text : String) : Option (List String) :=
  let (words, matched) := cv.stages.foldl (fun (acc : List String × Bool) stage =>
      acc.1.foldl (fun (inner : List String × Bool) w =>
          match stage.dict.matchWord w with
          | some e =>
            if e.values.isEmpty then (addNew inner.1 (stage.convert w), inner.2)
            else (e.values.foldl addNew inner.1, true)
          | none => (addNew inner.1 (stage.convert w), inner.2))
        ([], acc.2))
    ([text], false)
  if matched && !words.isEmpty then some words else none

end Converter

namespace Conversion

/-- Convert the characters `rest`, choosing each match's value with the generator; a match
    without values copies one character and draws nothing. -/
def walkDrawing (c : Conversion) : List Char → Random.Generator → String × Random.Generator
  | [], g => ("", g)
  | ch :: cs, g =>
    match c.dict.matchPrefix (String.ofList (ch :: cs)) with
    | some e =>
      if 0 < e.keyLength then
        match g.choose e.values with
        | (some v, g) =>
          let (out, g) := walkDrawing c (cs.drop (e.key.length - 1)) g
          (v ++ out, g)
        | (none, g) =>
          let (out, g) := walkDrawing c cs g
          (ch.toString ++ out, g)
      else
        let (out, g) := walkDrawing c cs g
        (ch.toString ++ out, g)
    | none =>
      let (out, g) := walkDrawing c cs g
      (ch.toString ++ out, g)
termination_by rest => rest.length
decreasing_by
  all_goals (simp only [List.length_drop, List.length_cons]; omega)

end Conversion

/-- An engine for a configuration file: the converter once loaded, and the generator of its
    random choices. -/
structure Engine where
  configPath : String
  converter : Option Converter := none
  generator : Random.Generator

namespace Engine

/-- An engine for `path` with choices seeded by `seed`; nothing is loaded yet. -/
def create (path : String) (seed : UInt64) : Engine :=
  { configPath := path, generator := Random.Generator.ofSeed seed }

def isReady (e : Engine) : Bool := e.converter.isSome

/-- Load the configuration unless it is loaded; whether the engine is ready then. -/
def prepare (e : Engine) (fs : Files) : Bool × Engine :=
  match e.converter with
  | some _ => (true, e)
  | none =>
    match ConverterConfig.load fs e.configPath with
    | .ok cv => if cv.stages.isEmpty then (false, e) else (true, { e with converter := some cv })
    | .error _ => (false, e)

/-- The converter, loading it first if needed. -/
def loaded (e : Engine) (fs : Files) : Option Converter × Engine :=
  let (_, e) := e.prepare fs
  (e.converter, e)

/-- Every form a word may take. -/
def convertWord (e : Engine) (fs : Files) (text : String) : Option (List String) × Engine :=
  if text.isEmpty then (none, e)
  else
    match e.loaded fs with
    | (some cv, e) => (cv.forms text, e)
    | (none, e) => (none, e)

/-- The default conversion of a text, when it changes the text. -/
def convertText (e : Engine) (fs : Files) (text : String) : Option String × Engine :=
  if text.isEmpty then (none, e)
  else
    match e.loaded fs with
    | (some cv, e) =>
      let out := cv.convert text
      (if out == text then none else some out, e)
    | (none, e) => (none, e)

/-- The stages with values chosen at random, when that changes the text. -/
def convertRandomly (e : Engine) (fs : Files) (text : String) : Option String × Engine :=
  if text.isEmpty then (none, e)
  else
    match e.loaded fs with
    | (some cv, e) =>
      let (out, g) := cv.stages.foldl (fun (acc : String × Random.Generator) stage =>
          stage.walkDrawing acc.1.toList acc.2)
        (text, e.generator)
      (if out == text then none else some out, { e with generator := g })
    | (none, e) => (none, e)

/-- The engine as its file and readiness. -/
def describe (e : Engine) : String :=
  "Opencc \x7b config_path: " ++ Text.quote e.configPath ++ ", ready: " ++
    (if e.isReady then "true" else "false") ++ " \x7d"

end Engine

end InputMethod
