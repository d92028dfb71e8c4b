import InputMethod.Text.Escaped

/-! # Quoted text

How descriptions of values write text: between double quotes, with a backslash before a double
quote or a backslash, `\t`, `\r`, `\n` and `\0` for those controls, and every other character of
the escaped table (`Text.isEscaped`) as `\u{…}` with its code point in lower-case hexadecimal.
-/

namespace InputMethod.Text

def quoteChar (c : Char) : String :=
  if c == '"' then "\\\"" else if c == '\\' then "\\\\"
  else if c == '\t' then "\\t" else if c == '\r' then "\\r" else if c == '\n' then "\\n"
  else if c.toNat == 0 then "\\0"
  else if isEscaped c then "\\u\x7b" ++ String.ofList (Nat.toDigits 16 c.toNat) ++ "\x7d"
  else c.toString

/-- Text between double quotes. -/
def quote (s : String) : String := "\"" ++ String.join (s.toList.map quoteChar) ++ "\""

/-- A list of texts, each quoted, as `["a", "b"]`. -/
def quoteList (ss : List String) : String := "[" ++ ", ".intercalate (ss.map quote) ++ "]"

end InputMethod.Text
