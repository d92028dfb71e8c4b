import InputMethod.Pattern.Ast

/-! # How deeply a pattern nests

A pattern may nest at most `nestLimit` levels deep. Levels are counted on the parsed tree:
a group, a repetition, an alternation, a sequence of several items and a bracketed class each
lie one level below what holds them, and inside a class so do a nested bracket, a run of
several items and a set operation. Characters, named classes, assertions, flags and empty items
are leaves and add no level.

A pattern nested too deeply is refused at the first node, in reading order, that lies below
the limit (`Ast.tooDeep`).
-/

namespace InputMethod.Pattern

/-- The most levels a pattern may nest. -/
def nestLimit : Nat := 250

mutual

/-- The stretch of the first node of a class item, in reading order, that lies more than
    `limit` levels deep, when the item's parent lies `depth` levels deep. -/
def ClassSet.tooDeep (limit depth : Nat) : ClassSet → Option Span
  | .bracketed span _ set =>
    if limit < depth + 1 then some span else ClassSet.tooDeep limit (depth + 1) set
  | .union _ [] => none
  | .union span (item :: items) =>
    if limit < depth + 1 then some span
    else ClassSet.tooDeepList limit (depth + 1) (item :: items)
  | .op span _ lhs rhs =>
    if limit < depth + 1 then some span
    else
      match ClassSet.tooDeep limit (depth + 1) lhs with
      | some s => some s
      | none => ClassSet.tooDeep limit (depth + 1) rhs
  | _ => none

def ClassSet.tooDeepList (limit depth : Nat) : List ClassSet → Option Span
  | [] => none
  | item :: items =>
    match ClassSet.tooDeep limit depth item with
    | some s => some s
    | none => ClassSet.tooDeepList limit depth items

end

mutual

/-- The stretch of the first node of a pattern, in reading order, that lies more than `limit`
    levels deep, when the pattern's parent lies `depth` levels deep (the whole pattern has
    depth `0` as its parent's). -/
def Ast.tooDeep (limit depth : Nat) : Ast → Option Span
  | .bracketed span _ set =>
    if limit < depth + 1 then some span else ClassSet.tooDeep limit (depth + 1) set
  | .repetition span _ _ _ sub =>
    if limit < depth + 1 then some span else Ast.tooDeep limit (depth + 1) sub
  | .group span _ sub =>
    if limit < depth + 1 then some span else Ast.tooDeep limit (depth + 1) sub
  | .alternation span branches =>
    if limit < depth + 1 then some span else Ast.tooDeepList limit (depth + 1) branches
  | .concat span items =>
    if limit < depth + 1 then some span else Ast.tooDeepList limit (depth + 1) items
  | _ => none

def Ast.tooDeepList (limit depth : Nat) : List Ast → Option Span
  | [] => none
  | a :: rest =>
    match Ast.tooDeep limit depth a with
    | some s => some s
    | none => Ast.tooDeepList limit depth rest

end

def checkNesting (ast : Ast) : Except SyntaxError Unit :=
  match ast.tooDeep nestLimit 0 with
  | some span => .error { kind := .nestLimitExceeded nestLimit, span }
  | none => .ok ()

end InputMethod.Pattern
