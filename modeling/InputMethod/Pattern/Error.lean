import InputMethod.Pattern.Ast

/-! # Showing pattern errors

An error is shown with the pattern and carets under the stretch it is about:

```
regex parse error:
    (
    ^
error: unclosed group
```

A pattern of several lines is framed by rules of tildes and numbered line by line; a stretch
that runs over several lines is named by its lines and columns below the frame. Columns count
characters from 1.
-/

namespace InputMethod.Pattern

def lineColumn (chars : List Char) (i : Nat) : Nat × Nat :=
  (chars.take i).foldl (fun (lc : Nat × Nat) c => if c == '\n' then (lc.1 + 1, 1) else (lc.1, lc.2 + 1))
    (1, 1)

def dropReturn (p : String) : String :=
  if p.endsWith "\r" then String.ofList p.toList.dropLast else p

/-- The lines of a text: cut at line feeds, a carriage return before a line feed dropped, and
    no empty line after a final line feed. -/
def textLines (s : String) : List String :=
  if s.isEmpty then []
  else
    let pieces := s.splitOn "\n"
    let ended := pieces.dropLast.map dropReturn
    match pieces.getLast? with
    | some "" => ended
    | some last => ended ++ [last]
    | none => ended

/-- A stretch located by lines and columns. -/
structure Located where
  startLine : Nat
  startColumn : Nat
  stopLine : Nat
  stopColumn : Nat
  start : Nat
  stop : Nat

def locate (chars : List Char) (s : Span) : Located :=
  let (l1, c1) := lineColumn chars s.start
  let (l2, c2) := lineColumn chars s.stop
  ⟨l1, c1, l2, c2, s.start, s.stop⟩

def sortLocated (ls : List Located) : List Located :=
  ls.mergeSort fun a b => a.start < b.start || (a.start == b.start && a.stop ≤ b.stop)

def caretLine (padding : Nat) (spans : List Located) : String :=
  let (out, _) := spans.foldl (fun (acc : String × Nat) l =>
      let (out, pos) := acc
      let gap := (l.startColumn - 1) - pos
      let width := max 1 (l.stopColumn - l.startColumn)
      (out ++ String.ofList (List.replicate gap ' ') ++ String.ofList (List.replicate width '^'),
        max pos (l.startColumn - 1) + width))
    (String.ofList (List.replicate padding ' '), 0)
  out

def notate (pattern : String) (width : Nat) (oneLine : List Located) : String :=
  let padding := if width == 0 then 4 else 2 + width
  ((textLines pattern).zipIdx).foldl (fun out (line, i) =>
      let number := toString (i + 1)
      let pre := if width == 0 then "    "
        else String.ofList (List.replicate (width - number.length) ' ') ++ number ++ ": "
      let spans := oneLine.filter (·.startLine == i + 1)
      out ++ pre ++ line ++ "\n" ++ (if spans.isEmpty then "" else caretLine padding spans ++ "\n"))
    ""

/-- The text of an error in `pattern`. -/
def SyntaxError.display (pattern : String) (e : SyntaxError) : String :=
  let chars := pattern.toList
  let spans := sortLocated ((e.span :: e.aux.toList).map (locate chars))
  let oneLine := spans.filter fun l => l.startLine == l.stopLine
  let multiLine := spans.filter fun l => l.startLine != l.stopLine
  let lineCount := (textLines pattern).length + (if pattern.endsWith "\n" then 1 else 0)
  let width := if lineCount ≤ 1 then 0 else (toString lineCount).length
  let notated := notate pattern width oneLine
  if chars.contains '\n' then
    let rule := String.ofList (List.replicate 79 '~')
    let notes := multiLine.map fun l =>
      "on line " ++ toString l.startLine ++ " (column " ++ toString l.startColumn ++
        ") through line " ++ toString l.stopLine ++ " (column " ++ toString (l.stopColumn - 1) ++ ")"
    "regex parse error:\n" ++ rule ++ "\n" ++ notated ++ rule ++ "\n" ++
      (if notes.isEmpty then "" else "\n".intercalate notes ++ "\n") ++ "error: " ++ e.kind.message
  else "regex parse error:\n" ++ notated ++ "error: " ++ e.kind.message

end InputMethod.Pattern
