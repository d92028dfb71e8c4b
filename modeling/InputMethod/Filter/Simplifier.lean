import InputMethod.Conversion.Registry
import InputMethod.Schema.Sections
import InputMethod.Filter.Ticket
import InputMethod.Projection
import InputMethod.Stream.Basic
import InputMethod.Context

/-! # The simplifier filter

The simplifier converts the text of candidates with a conversion engine, while the context has
its option switched on (`simplification` unless the table names another). Each candidate of the
stream is replaced by what it converts to, in order, and one that does not convert passes on
unchanged:

* a candidate with empty text, or of an excluded kind, does not convert;
* in random mode the text converts to one random conversion, when that changes it;
* otherwise a word with forms (`Converter.forms`) converts to all of them, where the form equal
  to the text is the candidate itself; any other text to its default conversion, when that
  changes it.

A converted text becomes a `simplified` shadow of the candidate (`Presentation.shadow`): it
shows the converted text, or with `showInComment` the source text and the conversion as its
tip. Tips are shown for all candidates, for those of one character, or for none, and never for
text holding the replacement character U+FFFD. A tip is the comment format applied to the text
it shows; without `showInComment`, a format that leaves the source unchanged gives the source
between the brackets 〔 and 〕.

Within one stream, each conversion starts from the engine the conversions before it left, so in
random mode the choices go on from one candidate to the next. The filter shares its engine
through the `Registry` with the other filters that name the same configuration.
-/

namespace InputMethod

/-- Which converted candidates show a tip. -/
inductive TipsLevel where
  | none
  | char
  | all

def TipsLevel.ofName : String → TipsLevel
  | "all" => .all
  | "char" => .char
  | _ => .none

/-- How the simplifier presents a converted candidate. -/
structure Presentation where
  tips : TipsLevel := .none
  showInComment : Bool := false
  inheritComment : Bool := false
  commentFormat : Projection := {}

namespace Presentation

def showsTip (p : Presentation) (source : String) : Bool :=
  !source.contains '�' &&
    match p.tips with
    | .all => true
    | .char => source.length == 1
    | .none => false

/-- The tip of a candidate with text `source` converted to `converted`. -/
def tip (p : Presentation) (source converted : String) : String :=
  if !p.showsTip source then ""
  else if p.showInComment then (p.commentFormat.apply converted).1
  else
    match p.commentFormat.apply source with
    | (formatted, true) => formatted
    | (_, false) => "〔" ++ source ++ "〕"

/-- The `simplified` shadow of `base` whose text converts to `converted`. -/
def shadow (p : Presentation) (base : Candidate) (converted : String) : Candidate :=
  let shown := base.text
  base.shadowOf "simplified" (if p.showInComment then shown else converted)
    (p.tip shown converted) p.inheritComment

end Presentation

def simplifierKind : String := "simplifier"

def defaultSimplifierOption : String := "simplification"

/-- A simplifier: its switch, the engine it holds in the registry, and how it converts and
    presents candidates. -/
structure Simplifier where
  optionName : String := defaultSimplifierOption
  engine : Nat
  presentation : Presentation := {}
  random : Bool := false
  excludedKinds : List String := []

namespace Simplifier

def ofOptions (o : SimplifierOptions) (engine : Nat) : Simplifier :=
  { optionName := if o.optionName.isEmpty then defaultSimplifierOption else o.optionName,
    engine,
    presentation :=
      { tips := TipsLevel.ofName o.tips, showInComment := o.showInComment,
        inheritComment := o.inheritComment,
        commentFormat := match Projection.load o.commentFormat with
          | .ok p => p
          | .error _ => {} },
    random := o.random, excludedKinds := o.excludedTypes }

/-- The simplifier of a ticket: its options from the ticket's table (`simplifier` for a table
    named `filter`), and a hold of the engine for their configuration. -/
def create (t : Ticket) (reg : Registry) (fs : Files) : Except BuildError (Simplifier × Registry) :=
  let table := if t.nameSpace == "filter" then simplifierKind else t.nameSpace
  match t.schema.options table SimplifierOptions.decoder {} with
  | .error e => .error (.options e)
  | .ok o =>
    match reg.require fs o.conversionConfig t.dataDirs with
    | .error e => .error (.component simplifierKind e.message)
    | .ok (id, reg) => .ok (ofOptions o id, reg)

/-- Whether the simplifier works in a context. -/
def isOn (s : Simplifier) : Option Context → Bool
  | some c => c.getOption s.optionName
  | none => false

def convert? (s : Simplifier) (e : Engine) (fs : Files) (c : Candidate) :
    Option (List Candidate) × Engine :=
  let text := c.text
  if text.isEmpty || s.excludedKinds.contains c.kind then (none, e)
  else if s.random then
    let (converted, e) := e.convertRandomly fs text
    (converted.map fun v => [s.presentation.shadow c v], e)
  else
    match e.convertWord fs text with
    | (some forms, e) =>
      (some (forms.map fun form => if form == text then c else s.presentation.shadow c form), e)
    | (none, e) =>
      let (converted, e) := e.convertText fs text
      (converted.map fun v => [s.presentation.shadow c v], e)

/-- The engine after converting `cs` one after another from `e`. -/
def engineAfter (s : Simplifier) (e : Engine) (fs : Files) (cs : List Candidate) : Engine :=
  cs.foldl (fun e c => (s.convert? e fs c).2) e

/-- What takes the place of a candidate in the stream after the candidates `before`: what it
    converts to with the engine their conversions left, or itself. -/
def expansion (s : Simplifier) (e : Engine) (fs : Files) : Expansion := fun before c =>
  match (s.convert? (s.engineAfter e fs before) fs c).1 with
  | some (first :: rest) => (first, rest)
  | _ => (c, [])

/-- The stream with every candidate replaced as `expansion` says, when the simplifier is on. -/
def apply (s : Simplifier) (e : Engine) (fs : Files) (source : Stream) (ctx : Option Context) :
    Stream :=
  if s.isOn ctx then source.expandWith (s.expansion e fs) else source

end Simplifier

end InputMethod
