import InputMethod.Context
import InputMethod.Grammar.Scoring
import InputMethod.Decimal.Shortest

/-! # Contextual ranking

The ranking filter reorders the head of a candidate stream by how well each candidate fits the
text around the caret, as a grammar judges it. It stays out of the way when it cannot help, by
gates checked in order; a call stopped by a gate returns its stream untouched:

1. ranking disabled, no grammar, or an exhausted stream;
2. no context;
3. an input shorter than `minInputLength` bytes;
4. less than `debounceMs` since the last call that got this far (or since the filter was made),
   on a clock of milliseconds that the caller reads;
5. no text on either side of the caret.

A call that passes takes up to `maxCandidates` candidates off the stream and gives each the
total of its quality and its scores against the text before the caret (the host's, else the
latest commit) and after it. With at least three of them, they are sorted by total, highest
first and stably, and each total becomes the candidate's quality. The result plays these
candidates and then the rest of the stream.
-/

namespace InputMethod

/-- When and how far the ranking filter works. -/
structure RankingOptions where
  enabled : Bool := true
  maxCandidates : Nat := 8
  minInputLength : Nat := 2
  debounceMs : Nat := 100

/-- Fewer collected candidates than this are passed on in stream order. -/
def minCandidatesToSort : Nat := 3

/-- The ranking filter with the clock reading of the last call that reached the debounce gate
    (zero, the filter's making, before any). -/
structure Ranker where
  grammar : Option Grammar
  options : RankingOptions := {}
  lastGate : Nat := 0

/-- What a call of the ranking filter answers. -/
structure Ranked where
  stream : Stream
  rescored : List Candidate := []
  queries : List Query := []

namespace Ranker

/-- Take up to `n` candidates off the stream, scoring each against `left` and `right`. -/
def collect (left right : String) : Nat → Grammar → List Query → Stream →
    List (Candidate × Float) × Grammar × List Query × Stream
  | 0, g, qs, s => ([], g, qs, s)
  | n + 1, g, qs, s =>
    if s.exhausted then ([], g, qs, s)
    else
      match s.pull with
      | (none, s') => ([], g, qs, s')
      | (some c, s') =>
        let (l, g, qs) := if left.isEmpty then (0.0, g, qs)
          else let (v, g) := g.query left c.text false; (v, g, qs ++ [(left, c.text, false)])
        let (r, g, qs) := if right.isEmpty then (0.0, g, qs)
          else let (v, g) := g.query c.text right true; (v, g, qs ++ [(c.text, right, true)])
        let (rest, g, qs, s'') := collect left right n g qs s'
        ((c, c.quality + l + r) :: rest, g, qs, s'')

def sortByTotal (scored : List (Candidate × Float)) : List (Candidate × Float) :=
  scored.mergeSort fun a b => Decimal.totalKey b.2 ≤ Decimal.totalKey a.2

/-- Apply the filter to `s` in `ctx` at clock reading `now`. -/
def apply (r : Ranker) (s : Stream) (ctx : Option Context) (now : Nat) : Ranked × Ranker :=
  match r.grammar, ctx with
  | some g, some c =>
    if !r.options.enabled || s.exhausted || c.input.utf8ByteSize < r.options.minInputLength then
      ({ stream := s }, r)
    else
      let elapsed := now - r.lastGate
      let r := { r with lastGate := now }
      let left := if c.preceding.isEmpty then c.internalPreceding else c.preceding
      let right := c.following
      if elapsed < r.options.debounceMs || (left.isEmpty && right.isEmpty) then ({ stream := s }, r)
      else
        let (scored, g, queries, rest) := collect left right r.options.maxCandidates g [] s
        let r := { r with grammar := some g }
        if scored.isEmpty then ({ stream := rest, queries }, r)
        else if scored.length < minCandidatesToSort then
          ({ stream := Stream.concat [.ofList (scored.map Prod.fst), rest], queries }, r)
        else
          let ranked := (sortByTotal scored).map fun (cand, total) => cand.withQuality total
          ({ stream := Stream.concat [.ofList ranked, rest], rescored := ranked, queries }, r)
  | _, _ => ({ stream := s }, r)

end Ranker

end InputMethod
