/-! # Paths and a file store

Paths are text with `/` between components; a leading `/` makes a path absolute, and a relative
path starts from the store's working directory. `Path.join`, `Path.parent?` and
`Path.extension?` work on the text alone, as path syntax does; `Files` resolves `.` and `..`
when it looks a path up.

A `Files` value holds files by their resolved path; directories are the paths above some file.
Reading names why it fails: a missing path, a directory, a file standing where a directory is
expected, or bytes that are no UTF-8 text.
-/

namespace InputMethod

namespace Path

def isAbsolute (p : String) : Bool := p.startsWith "/"

/-- `rel` below `base`; an absolute `rel` replaces `base`. -/
def join (base rel : String) : String :=
  if isAbsolute rel then rel
  else if base.isEmpty || base.endsWith "/" then base ++ rel
  else base ++ "/" ++ rel

def trimSlashes (p : String) : String :=
  String.ofList (p.toList.reverse.dropWhile (· == '/')).reverse

/-- The path without its last component: `none` for the root and the empty path, `""` for a
    single relative component. -/
def parent? (p : String) : Option String :=
  let t := trimSlashes p
  if t.isEmpty then none
  else
    match (t.toList.reverse.dropWhile (· != '/')) with
    | [] => some ""
    | rest =>
      let dir := trimSlashes (String.ofList rest.reverse)
      some (if dir.isEmpty then "/" else dir)

def fileName? (p : String) : Option String :=
  match ((p.splitOn "/").filter (fun c => c != "" && c != ".")).getLast? with
  | some ".." => none
  | other => other

/-- The text after the last dot of the last component; a name that starts with its only dot
    has none. -/
def extension? (p : String) : Option String :=
  match fileName? p with
  | none => none
  | some name =>
    let pieces := name.splitOn "."
    match pieces with
    | [] | [_] => none
    | _ =>
      if String.join (pieces.dropLast) == "" && pieces.length == 2 then none
      else pieces.getLast?

end Path

/-- Why a path could not be read. -/
inductive FileError where
  | notFound
  | isDirectory
  | notDirectory
  | notText

/-- How the system describes the failure. -/
def FileError.message : FileError → String
  | .notFound => "No such file or directory (os error 2)"
  | .isDirectory => "Is a directory (os error 21)"
  | .notDirectory => "Not a directory (os error 20)"
  | .notText => "stream did not contain valid UTF-8"

/-- Files by resolved path, and the directory relative paths start from. -/
structure Files where
  workDir : String := "/"
  files : List (List String × ByteArray) := []

namespace Files

def resolve (fs : Files) (p : String) : List String :=
  let full := if Path.isAbsolute p then p else Path.join fs.workDir p
  ((full.splitOn "/").filter (fun c => c != "" && c != ".")).foldl
    (fun acc c => if c == ".." then acc.dropLast else acc ++ [c]) []

/-- The bytes of the file at `p`. -/
def readBytes (fs : Files) (p : String) : Except FileError ByteArray :=
  let cs := fs.resolve p
  match fs.files.find? (·.1 == cs) with
  | some (_, bytes) => .ok bytes
  | none =>
    if fs.files.any (fun f => cs.isPrefixOf f.1) then .error .isDirectory
    else if fs.files.any (fun f => f.1.isPrefixOf cs) then .error .notDirectory
    else .error .notFound

/-- The text of the file at `p`. -/
def readText (fs : Files) (p : String) : Except FileError String := do
  match String.fromUTF8? (← fs.readBytes p) with
  | some s => .ok s
  | none => .error .notText

def exists? (fs : Files) (p : String) : Bool :=
  let cs := fs.resolve p
  fs.files.any (fun f => cs.isPrefixOf f.1)

/-- Write a file, replacing one at the same path. -/
def write (fs : Files) (p : String) (bytes : ByteArray) : Files :=
  let cs := fs.resolve p
  { fs with files := (fs.files.filter (·.1 != cs)) ++ [(cs, bytes)] }

def remove (fs : Files) (p : String) : Files :=
  let cs := fs.resolve p
  { fs with files := fs.files.filter (·.1 != cs) }

end Files

end InputMethod
