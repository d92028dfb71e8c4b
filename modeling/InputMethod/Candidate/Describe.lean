import InputMethod.Candidate
import InputMethod.Text.Quoted
import InputMethod.Decimal.Text

/-! # Describing candidates

A candidate described for inspection, as
`Candidate { kind: "phrase", span: 2..5, text: "a", comment: "", quality: 1.0, shadow: false }`:
texts quoted, the span as `start..stop`, and the quality as its shortest decimal.
-/

namespace InputMethod.Candidate

/-- The candidate as its kind, span, presented text and comment, quality and shadow flag. -/
def describe (c : Candidate) : String :=
  "Candidate \x7b kind: " ++ Text.quote c.kind ++
    ", span: " ++ toString c.start ++ ".." ++ toString c.stop ++
    ", text: " ++ Text.quote c.text ++
    ", comment: " ++ Text.quote c.comment ++
    ", quality: " ++ Decimal.Notation.inspect.render c.quality ++
    ", shadow: " ++ (if c.isShadow then "true" else "false") ++ " \x7d"

end InputMethod.Candidate
