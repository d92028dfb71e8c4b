/-! # Lines of text

Text is cut into lines at line feeds. A line feed at the very end ends the last line rather
than starting an empty one, and a carriage return right before a line feed belongs to the line
break, not to the line.
-/

namespace InputMethod.Text

/-- The lines of a text: the pieces between line feeds, without the empty piece after a final
    line feed, each without a carriage return that ends it. -/
def lines (s : String) : List String :=
  let pieces := s.splitOn "\n"
  let pieces := if pieces.getLast? == some "" then pieces.dropLast else pieces
  pieces.map fun p => if p.endsWith "\r" then String.ofList p.toList.dropLast else p

/-- A text without the carriage returns at its end. -/
def dropTrailingReturns (s : String) : String :=
  String.ofList (s.toList.reverse.dropWhile (· == '\r')).reverse

def isWhite (c : Char) : Bool :=
  let n := c.toNat
  (0x9 ≤ n && n ≤ 0xD) || n == 0x20 || n == 0x85 || n == 0xA0 || n == 0x1680 ||
    (0x2000 ≤ n && n ≤ 0x200A) || n == 0x2028 || n == 0x2029 || n == 0x202F || n == 0x205F ||
    n == 0x3000

/-- A text without white space at either end. -/
def trimWhite (s : String) : String :=
  String.ofList ((s.toList.dropWhile isWhite).reverse.dropWhile isWhite).reverse

/-- The pieces of a text between runs of white space, none of them empty. -/
def words (s : String) : List String :=
  (s.toList.splitBy (fun a b => isWhite a == isWhite b)).filterMap fun g =>
    match g with
    | c :: _ => if isWhite c then none else some (String.ofList g)
    | [] => none

end InputMethod.Text
