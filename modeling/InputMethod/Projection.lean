import InputMethod.Pattern.Regex
import InputMethod.Text.Quoted

/-! # Text projections

A projection rewrites a text by a list of formulas, applied in order. A formula is an operator
name in lowercase ASCII, a separator character of the author's choice, and arguments ended by
that separator:

* `xform/pattern/replacement/`: replace every match of the pattern;
* `xlit/abc/xyz/`: replace each character of the left side by the one at the same place on the
  right (the sides must have as many characters; a character listed twice maps as listed last);
* `erase/pattern/`: clear the text when the pattern matches all of it.

Applying a projection also tells whether the text changed.
-/

namespace InputMethod

open InputMethod.Pattern

/-- A formula that cannot be used, and why. -/
structure FormulaError where
  formula : String
  message : String

/-- The text of a formula error. -/
def FormulaError.text (e : FormulaError) : String :=
  "Invalid projection formula " ++ Text.quote e.formula ++ ": " ++ e.message

/-- One formula, ready to apply. -/
inductive Calculation where
  | transform (pattern : Regex) (replacement : String)
  | transliterate (pairs : List (Char × Char))
  | erase (pattern : Regex)

namespace Calculation

/-- Read the arguments of a formula with operator `op`: the calculation, or why they cannot be
    used. `xform` and `xlit` take two arguments and `erase` one; more are ignored. -/
def ofArguments (formula op : String) (args : List String) : Except FormulaError Calculation := do
  let invalid (message : String) : FormulaError := { formula, message }
  let regex (pattern : String) : Except FormulaError Regex :=
    (Regex.compile pattern).mapError invalid
  match op, args with
  | "xform", pattern :: replacement :: _ => return .transform (← regex pattern) replacement
  | "xlit", left :: right :: _ =>
    if left.length != right.length then throw (invalid "xlit sides differ in length")
    return .transliterate (left.toList.zip right.toList)
  | "erase", pattern :: _ => return .erase (← regex ("^(?:" ++ pattern ++ ")$"))
  | "xform", _ | "xlit", _ | "erase", _ => throw (invalid "missing arguments")
  | _, _ => throw (invalid "unknown operator")

/-- Read a formula: the operator is the leading run of lowercase letters, the separator the
    character after it, and the arguments the rest cut at the separator. -/
def parse (formula : String) : Except FormulaError Calculation := do
  let cs := formula.toList
  let some opLength := cs.findIdx? (fun c => !c.isLower)
    | throw { formula, message := "missing separator" }
  let some sep := cs[opLength]? | throw { formula, message := "missing separator" }
  ofArguments formula (String.ofList (cs.take opLength))
    ((String.ofList (cs.drop (opLength + 1))).splitOn (String.singleton sep))

/-- Apply a formula: the new text and whether it changed. -/
def apply (c : Calculation) (text : String) : String × Bool :=
  match c with
  | .transform pattern replacement =>
    let out := pattern.replaceAll text replacement
    if out == text then (text, false) else (out, true)
  | .transliterate pairs =>
    let (out, modified) := text.toList.foldl (fun (acc : List Char × Bool) c =>
        match (pairs.reverse.find? (·.1 == c)) with
        | some (_, target) => (target :: acc.1, acc.2 || target != c)
        | none => (c :: acc.1, acc.2))
      ([], false)
    if modified then (String.ofList out.reverse, true) else (text, false)
  | .erase pattern =>
    if text.isEmpty || !pattern.isMatch text then (text, false) else ("", true)

end Calculation

/-- Formulas applied in order. -/
structure Projection where
  calculations : List Calculation := []

namespace Projection

/-- Read every formula; the first that cannot be used fails the whole projection. -/
def load (formulas : List String) : Except FormulaError Projection := do
  return { calculations := ← formulas.mapM Calculation.parse }

/-- Whether the projection has no formula. -/
def isEmpty (p : Projection) : Bool := p.calculations.isEmpty

/-- Apply every formula in order: the final text and whether any formula changed it. -/
def apply (p : Projection) (text : String) : String × Bool :=
  p.calculations.foldl (fun (acc : String × Bool) c =>
      let (t, m) := c.apply acc.1
      (t, acc.2 || m))
    (text, false)

end Projection

end InputMethod
