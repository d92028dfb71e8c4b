import InputMethod.Json.Decode
import InputMethod.Conversion.Converter

/-! # Conversion configurations

A conversion configuration is a JSON document that names a converter, its optional segmenting
dictionary (`segmentation`, of type `mmseg`) and its chain of conversions, each with one
dictionary. A dictionary is given by its `type`: a `text` file, a `group` of dictionaries, or a
binary `ocd` or `ocd2` file, which cannot be loaded. Files are found relative to the directory of
the configuration.

Reading follows the shape of the data strictly: unknown keys are skipped, a missing required
field or a value of the wrong kind is an error placed in the text (see `Json.Decode`). A
dictionary is read in two steps, as its `type` may come after its other fields: its members are
first kept as they are, then read by its type; a mismatch found in that second step is placed
after the enclosing object.
-/

namespace InputMethod

/-- Where a dictionary of a configuration comes from. -/
inductive DictSource where
  | text (file : String)
  | group (members : List DictSource)
  | binary (file : String)

/-- The segmenting dictionary of a configuration, with its kind of segmentation. -/
structure SegmentationSource where
  kind : String
  dict : DictSource

/-- A conversion configuration. -/
structure ConverterConfig where
  name : String := ""
  segmentation : Option SegmentationSource := none
  chain : List DictSource := []

/-! ## Dictionaries from kept data -/

def dictKinds : List String := ["text", "group", "ocd", "ocd2"]

def dictKindTitle (kind : Nat) : String :=
  "DictConfig::" ++ (["Text", "Group", "Ocd", "Ocd2"].getD kind "Text")

def kindOfValue : Json.Value → Except String Nat
  | .string s =>
    match dictKinds.findIdx? (· == s) with
    | some i => .ok i
    | none => .error (Json.unknownVariant s dictKinds)
  | .number (.nat n) =>
    if n < dictKinds.length then .ok n
    else .error ("invalid value: integer `" ++ toString n ++ "`, expected variant index 0 <= i < 4")
  | v => .error (Json.invalidType v.describe "variant identifier")

def textOfValue : Json.Value → Except String String
  | .string s => .ok s
  | v => .error (Json.invalidType v.describe "a string")

def singleField {α : Type} (title field : String) (read : Json.Value → Except String α) :
    Json.Value → Except String α
  | .object members => do
    let found ← members.foldlM (fun (acc : Option α) (k, v) =>
        if k == field then
          if acc.isSome then throw ("duplicate field `" ++ field ++ "`") else some <$> read v
        else pure acc)
      none
    match found with
    | some a => pure a
    | none => throw ("missing field `" ++ field ++ "`")
  | .array items =>
    match items with
    | [] => throw ("invalid length 0, expected struct variant " ++ title ++ " with 1 element")
    | [v] => read v
    | v :: rest => do
      let _ ← read v
      throw ("invalid length " ++ toString (rest.length + 1) ++ ", expected 1 element in sequence")
  | v => throw (Json.invalidType v.describe ("struct variant " ++ title))

def sourceOfKind (item : Json.Value → Except String DictSource) (kind : Nat) (content : Json.Value) :
    Except String DictSource :=
  if kind == 1 then
    DictSource.group <$> singleField (dictKindTitle kind) "dicts" (fun
      | .array items => items.mapM item
      | v => throw (Json.invalidType v.describe "a sequence")) content
  else do
    let file ← singleField (dictKindTitle kind) "file" textOfValue content
    return if kind == 0 then .text file else .binary file

def sourceOfValue : Nat → Json.Value → Except String DictSource
  | 0, _ => throw "recursion limit exceeded"
  | depth + 1, .object members => do
    let (kind, rest) ← members.foldlM (fun (acc : Option Nat × List (String × Json.Value)) (k, v) =>
        if k == "type" then
          if acc.1.isSome then throw "duplicate field `type`"
          else do return (some (← kindOfValue v), acc.2)
        else pure (acc.1, acc.2 ++ [(k, v)]))
      (none, [])
    let some kind := kind | throw "missing field `type`"
    sourceOfKind (sourceOfValue depth) kind (.object rest)
  | depth + 1, .array items =>
    match items with
    | [] => throw "missing field `type`"
    | t :: rest => do sourceOfKind (sourceOfValue depth) (← kindOfValue t) (.array rest)
  | _, v => throw (Json.invalidType v.describe "internally tagged enum DictConfig")

def dictDepth : Nat := 128

/-! ## Reading from the text -/

open Json in
def kindMembersLoop : Nat → Bool → Option Nat → List (String × Value) →
    Reader (Nat × List (String × Value))
  | 0, _, _, _, c => .error (.data "missing field `type`" c)
  | n + 1, first, kind, rest, c => do
    let (key, c) ← nextKey first c
    match key with
    | none =>
      match kind with
      | some k => .ok ((k, rest.reverse), c)
      | none => .error (.data "missing field `type`" c)
    | some "type" =>
      if kind.isSome then .error (.data "duplicate field `type`" c)
      else
        let c ← colon c
        let (k, c) ← readName dictKinds c
        kindMembersLoop n false (some k) rest c
    | some k =>
      let c ← colon c
      let (v, c) ← readAny c
      kindMembersLoop n false kind ((k, v) :: rest) c

open Json in
def kindItems : Reader (Nat × List Value) := fun c => do
  let (more, c) ← nextItem true c
  if !more then .error (.data "missing field `type`" c)
  else
    let (k, c) ← readName dictKinds c
    let (rest, c) ← itemsLoop readAny (c.bytes.size + 1) false [] c
    .ok ((k, rest), c)

open Json in
def readSource : Reader DictSource := fun c =>
  let c := c.skipBlanks
  let finish (r : Except Fault ((Nat × Value) × Cursor)) : Except Fault (DictSource × Cursor) :=
    match r with
    | .ok ((kind, content), c) =>
      match sourceOfKind (sourceOfValue dictDepth) kind content with
      | .ok d => .ok (d, c)
      | .error m => .error (.data m c)
    | .error f => .error f
  match c.peek? with
  | none => .error (.placed (c.peekError .eofWhileParsingValue))
  | some 123 =>
    finish ((enclosed (fun c => kindMembersLoop (c.bytes.size + 1) true none [] c) closeObject c.bump).map
      fun ((k, members), c) => ((k, .object members), c))
  | some 91 =>
    finish ((enclosed kindItems closeArray c.bump).map fun ((k, items), c) => ((k, .array items), c))
  | some _ => .error (refuseValue c "internally tagged enum DictConfig")

/-- A segmentation under construction. -/
structure SegmentationDraft where
  kind : Option String := none
  dict : Option DictSource := none

open Json in
def segmentationFields : List (Json.Field SegmentationDraft) := [
  { name := "type", required := true, given := (·.kind.isSome),
    read := fun d c => do
      let (k, c) ← readText "a string" c
      return ({ d with kind := some k }, c) },
  { name := "dict", required := true, given := (·.dict.isSome),
    read := fun d c => do
      let (s, c) ← readSource c
      return ({ d with dict := some s }, c) }]

open Json in
def readSegmentation : Reader SegmentationSource := fun c => do
  let (d, c) ← readRecord "SegmentationConfig" (recordFromObject segmentationFields {})
    (recordFromArray "SegmentationConfig" segmentationFields {}) c
  return ({ kind := d.kind.getD "", dict := d.dict.getD (.group []) }, c)

open Json in
def conversionFields : List (Json.Field (Option DictSource)) := [
  { name := "dict", required := true, given := Option.isSome,
    read := fun _ c => do
      let (s, c) ← readSource c
      return (some s, c) }]

open Json in
def readConversion : Reader DictSource := fun c => do
  let (d, c) ← readRecord "ConversionConfig" (recordFromObject conversionFields none)
    (recordFromArray "ConversionConfig" conversionFields none) c
  return (d.getD (.group []), c)

/-- A configuration under construction: which fields were read. -/
structure ConfigDraft where
  config : ConverterConfig := {}
  given : List String := []

open Json in
def configFields : List (Json.Field ConfigDraft) := [
  { name := "name", required := false, given := (·.given.contains "name"),
    read := fun d c => do
      let (s, c) ← readText "a string" c
      return ({ config := { d.config with name := s }, given := "name" :: d.given }, c) },
  { name := "segmentation", required := false, given := (·.given.contains "segmentation"),
    read := fun d c => do
      let (s, c) ← readOption readSegmentation c
      return ({ config := { d.config with segmentation := s }, given := "segmentation" :: d.given }, c) },
  { name := "conversion_chain", required := false, given := (·.given.contains "conversion_chain"),
    read := fun d c => do
      let (l, c) ← readList readConversion c
      return ({ config := { d.config with chain := l }, given := "conversion_chain" :: d.given }, c) }]

namespace ConverterConfig

open Json in
def ofJson (text path : String) : Except ConversionError ConverterConfig :=
  let reader : Reader ConfigDraft := readRecord "ConverterConfig" (recordFromObject configFields {})
    (recordFromArray "ConverterConfig" configFields {})
  match readWhole reader text with
  | .ok d => .ok d.config
  | .error e => .error (.json path e)

end ConverterConfig

/-! ## Loading -/

mutual

/-- Load a dictionary, its files relative to `base`. -/
def DictSource.load (fs : Files) (base : String) : DictSource → Except ConversionError Dictionary
  | .text file =>
    let path := Path.join base file
    match fs.readText path with
    | .ok content => Dictionary.parse content path
    | .error e => .error (.io path e)
  | .group members => Dictionary.group <$> DictSource.loadAll fs base members
  | .binary file => .error (.unsupportedDict file)

def DictSource.loadAll (fs : Files) (base : String) : List DictSource → Except ConversionError (List Dictionary)
  | [] => .ok []
  | d :: rest => do
    let first ← d.load fs base
    return first :: (← DictSource.loadAll fs base rest)

end

namespace ConverterConfig

/-- Build the converter, loading its dictionaries relative to `base`: the segmenting dictionary
    first, which must be of kind `mmseg`, then the chain in order. -/
def build (cfg : ConverterConfig) (fs : Files) (base : String) : Except ConversionError Converter := do
  let segmenter ← match cfg.segmentation with
    | some s =>
      if s.kind == "mmseg" then some <$> s.dict.load fs base
      else throw (.unsupportedSegmentation s.kind)
    | none => pure none
  let dicts ← DictSource.loadAll fs base cfg.chain
  return { name := cfg.name, segmenter, stages := dicts.map Conversion.mk }

/-- Read the configuration file at `path` and build its converter, relative to the file's
    directory. -/
def load (fs : Files) (path : String) : Except ConversionError Converter := do
  let text ← (fs.readText path).mapError (.io path)
  let cfg ← ofJson text path
  cfg.build fs ((Path.parent? path).getD ".")

end ConverterConfig

end InputMethod
