/-! # Errors of reading TOML

A document that cannot be read is refused with a message and, when the fault is in the text, the
place of the fault. The message is built from what the reader was doing when it failed: the
innermost construct it was reading (`invalid basic string`), the tokens it would have accepted
(`expected `.`, `]``) and a cause that is no syntax error (a duplicate key, a value out of
range), each on its own line.

Shown in full, an error names the line and column of the fault (columns count characters, but
bytes on a line where the fault sits on a character of several bytes), quotes the line and marks
the fault's character with carets below it.
-/

namespace InputMethod.Toml

/-- What a reading step was after when it failed. -/
inductive Context where
  | label (what : String)
  | expected (what : String)

/-- A character as an expected token: a line feed is `newline`, a backtick is quoted in single
    quotes, any other character stands between backticks. -/
def Context.char (c : Char) : Context :=
  if c == '\n' then .expected "newline"
  else if c == '`' then .expected "'`'"
  else .expected ("`" ++ c.toString ++ "`")

/-- A failed reading step: the byte offset where it failed, its contexts from the innermost out,
    and a cause beyond the syntax. -/
structure Failure where
  offset : Nat
  contexts : List Context := []
  cause : Option String := none

/-- The message of a failure: the innermost construct, the expected tokens and the cause, each
    present part on its own line. -/
def Failure.message (f : Failure) : String :=
  let label := f.contexts.findSome? fun
    | .label s => some s
    | _ => none
  let expected := f.contexts.filterMap fun
    | .expected s => some s
    | _ => none
  let parts := (label.map ("invalid " ++ ·)).toList ++
    (if expected.isEmpty then [] else ["expected " ++ ", ".intercalate expected]) ++ f.cause.toList
  "\n".intercalate parts

/-- Why a well-formed statement cannot join the document. -/
inductive DocumentError where
  | duplicateKey (key : String) (table : Option (List String))
  | extendsValue (path : List String) (kind : String)
  | outOfRange
  | tooDeep

/-- The text of a document error. -/
def DocumentError.message : DocumentError → String
  | .duplicateKey key none => "duplicate key `" ++ key ++ "`"
  | .duplicateKey key (some []) => "duplicate key `" ++ key ++ "` in document root"
  | .duplicateKey key (some path) =>
    "duplicate key `" ++ key ++ "` in table `" ++ ".".intercalate path ++ "`"
  | .extendsValue path kind =>
    "dotted key `" ++ ".".intercalate path ++ "` attempted to extend non-table type (" ++ kind ++ ")"
  | .outOfRange => "value is out of range"
  | .tooDeep => "recursion limit exceeded"

/-- A document that cannot be read: the message, and the byte range of the fault when the fault
    is at a place of the text. -/
structure Error where
  message : String
  span : Option (Nat × Nat) := none

def isContinuation (b : UInt8) : Bool := 0x80 ≤ b && b < 0xC0

def charWidth (b : UInt8) : Nat :=
  if b < 0x80 then 1 else if b < 0xE0 then 2 else if b < 0xF0 then 3 else 4

def spanAt (bytes : ByteArray) (offset : Nat) : Nat × Nat :=
  let offset := min offset bytes.size
  let start := (List.range (offset + 1)).reverse.find? (fun i =>
      match bytes[i]? with
      | some b => !isContinuation b
      | none => true)
  let start := start.getD 0
  match bytes[start]? with
  | some b => (start, min bytes.size (start + charWidth b))
  | none => (start, start)

/-- The line and column, counted from zero, of byte `index`; an index past the text counts on
    from its last byte. -/
def position (bytes : ByteArray) (index : Nat) : Nat × Nat :=
  if bytes.size = 0 then (0, index)
  else
    let safe := min index (bytes.size - 1)
    let extra := index - safe
    let before := (bytes.extract 0 safe).toList
    let lineStart := match (before.zip (List.range before.length)).reverse.find? (·.1 == 10) with
      | some (_, i) => i + 1
      | none => 0
    let line := ((bytes.extract 0 lineStart).toList.filter (· == 10)).length
    let column := match String.fromUTF8? (bytes.extract lineStart (safe + 1)) with
      | some s => s.length - 1
      | none => safe - lineStart
    (line, column + extra)

/-- `n` spaces. -/
def spaces (n : Nat) : String := String.ofList (List.replicate n ' ')

/-- An error in full, for the document `source`. -/
def Error.display (source : String) (e : Error) : String :=
  match e.span with
  | none => e.message ++ "\n"
  | some (start, stop) =>
    let (line, column) := position source.toUTF8 start
    let lineNumber := toString (line + 1)
    let gutter := lineNumber.length
    let content := (source.splitOn "\n").getD line ""
    let highlight := min (stop - start) (content.utf8ByteSize - column)
    "TOML parse error at line " ++ lineNumber ++ ", column " ++ toString (column + 1) ++ "\n" ++
      spaces (gutter + 1) ++ "|\n" ++
      lineNumber ++ " | " ++ content ++ "\n" ++
      spaces (gutter + 1) ++ "|" ++ spaces (column + 1) ++
      String.ofList (List.replicate (max highlight 1) '^') ++ "\n" ++
      e.message ++ "\n"

end InputMethod.Toml
