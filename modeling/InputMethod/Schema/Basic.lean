import InputMethod.Toml.Parser
import InputMethod.Toml.Decode
import InputMethod.Files

/-! # Schemas

A schema is a TOML document that configures the filters of an input method. Its values are
reached by paths of keys joined by `/` (`simplifier/random`); a getter answers only when the
path leads to a value of its kind. A whole table can be read as a record of options, which takes
its defaults when the table is absent. The `[data]` table names the directories searched for
data files given by relative paths, the user's before the shared one.
-/

namespace InputMethod

/-- Why a schema, or part of it, cannot be used. -/
inductive SchemaError where
  | io (path : String) (e : FileError)
  | toml (message : String)
  | invalidOptions (table : String) (e : Toml.DecodeError)

/-- The text of a schema error. -/
def SchemaError.message : SchemaError → String
  | .io path e => "IO error: " ++ path ++ ": " ++ e.message
  | .toml m => "TOML error: " ++ m
  | .invalidOptions table e => "Invalid options in [" ++ table ++ "]: " ++ e.text

/-- A schema: the root table of its document. -/
structure Schema where
  root : Toml.Table := []

namespace Schema

def ofText (text : String) : Except SchemaError Schema :=
  match Toml.parse text with
  | .ok root => .ok { root }
  | .error e => .error (.toml (e.display text))

/-- Read a schema from a file. -/
def load (fs : Files) (path : String) : Except SchemaError Schema :=
  match fs.readText path with
  | .ok text => ofText text
  | .error e => .error (.io path e)

/-- The value at a `/`-separated path of keys; every key but the last must lead to a table. -/
def lookup (s : Schema) (path : String) : Option Toml.Value :=
  match path.splitOn "/" with
  | [] => none
  | first :: rest =>
    rest.foldl (fun acc k => acc.bind fun v => v.asTable?.bind (Toml.Value.get? · k))
      (Toml.Value.get? s.root first)

def getBool (s : Schema) (path : String) : Option Bool := (s.lookup path).bind Toml.Value.asBool?

def getInt (s : Schema) (path : String) : Option Int := (s.lookup path).bind Toml.Value.asInt?

def getString (s : Schema) (path : String) : Option String :=
  (s.lookup path).bind Toml.Value.asString?

def getList (s : Schema) (path : String) : Option (List String) :=
  ((s.lookup path).bind Toml.Value.asArray?).map (·.filterMap Toml.Value.asString?)

/-- The filters in order: the list `filters`, else `engine/filters`, else none. -/
def filters (s : Schema) : List String :=
  match s.getList "filters" with
  | some fs => fs
  | none => (s.getList "engine/filters").getD []

/-- Read the table at `path` as a record of options; an absent table gives `default`. -/
def options {α : Type} (s : Schema) (path : String) (d : Toml.Decoder α) (default : α) :
    Except SchemaError α :=
  match s.lookup path with
  | none => .ok default
  | some v => (d v).mapError (.invalidOptions path)

end Schema

/-- The directories searched for data files. -/
structure DataDirs where
  user : Option String := none
  shared : Option String := none

namespace DataDirs

/-- Reads `user_data_dir` and `shared_data_dir`, both paths. -/
def decoder : Toml.Decoder DataDirs :=
  Toml.Decoder.record "DataDirs" [
    .of ["user_data_dir"] (Toml.Decoder.optional Toml.Decoder.path) (fun v d => { d with user := v }),
    .of ["shared_data_dir"] (Toml.Decoder.optional Toml.Decoder.path) (fun v d => { d with shared := v })]
    {}

/-- The first of `dir/subdir/relative` for the user's and the shared directory that exists. -/
def find (d : DataDirs) (fs : Files) (subdir relative : String) : Option String :=
  ([d.user, d.shared].filterMap id).map (fun dir => Path.join (Path.join dir subdir) relative)
    |>.find? fs.exists?

end DataDirs

/-- The data directories of the `[data]` table. -/
def Schema.dataDirs (s : Schema) : Except SchemaError DataDirs := s.options "data" DataDirs.decoder {}

end InputMethod
