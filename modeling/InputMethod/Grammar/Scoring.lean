import InputMethod.Grammar.Bigram

/-! # Scoring words against their context

A grammar judges how well a word fits next to a context; the ranking filter adds its scores to
candidate qualities. Higher is better, and zero means no opinion.

A bigram scorer looks up the longest suffix of the context that its model knows as a head. For
`query context word false` it scores `word` as that head's follower. For
`query context word true` the context is a candidate and `word` the text after the caret: the
follower is then the longest known follower that `word` starts with. A score is
`weight · (ln P - logFloor)` when the log probability lies above the floor, else zero.

A scorer may remember answers in a least-recently-used cache; remembered answers are the
answers the scorer would give again.
-/

namespace InputMethod

/-- A question put to a grammar: context, word, and whether the word follows the caret. -/
abbrev Query := String × String × Bool

/-- Remembered answers, most recently used first, at most `capacity` of them. -/
structure Cache where
  capacity : Nat
  entries : List (Query × Float) := []

namespace Cache

/-- The answer remembered for `q`; a hit becomes the most recently used entry. -/
def get? (c : Cache) (q : Query) : Option Float × Cache :=
  match c.entries.find? (·.1 == q) with
  | some (_, v) => (some v, { c with entries := (q, v) :: c.entries.filter (·.1 != q) })
  | none => (none, c)

/-- Remember `v` for `q`, forgetting the least recently used entry when full. -/
def put (c : Cache) (q : Query) (v : Float) : Cache :=
  let rest := c.entries.filter (·.1 != q)
  let rest := if rest.length + 1 > c.capacity then rest.take (c.capacity - 1) else rest
  { c with entries := (q, v) :: rest }

end Cache

/-- A bigram model with a weight and an optional cache of answers. -/
structure Scorer where
  model : Bigram.Model
  weight : Float := 1.0
  cache : Option Cache := none

namespace Scorer

def tailsOf {α : Type} : List α → List (List α)
  | [] => []
  | a :: rest => (a :: rest) :: tailsOf rest

def suffixes (s : String) : List String := (tailsOf s.toList).map String.ofList

/-- The longest suffix of `context` that the model knows as a head. -/
def head? (m : Bigram.Model) (context : String) : Option String :=
  (suffixes context).find? m.containsHead

def rearFollower? (m : Bigram.Model) (head word : String) : Option String :=
  ((m.followers head).filter (fun f => !f.word.isEmpty && f.word.isPrefixOf word)).foldl
    (fun best f => match best with
      | some b => if b.utf8ByteSize ≤ f.word.utf8ByteSize then some f.word else some b
      | none => some f.word) none

/-- The score of `word` next to `context`, computed from the model. -/
def score (s : Scorer) (context word : String) (rear : Bool) : Float :=
  match head? s.model context with
  | none => 0.0
  | some head =>
    match (if rear then rearFollower? s.model head word else some word) with
    | none => 0.0
    | some follower =>
      let logP := s.model.logProbability head follower
      if logP ≤ Bigram.logFloor then 0.0 else s.weight * (logP - Bigram.logFloor)

/-- The score, taken from the cache when remembered there, and remembered afterwards. -/
def query (s : Scorer) (context word : String) (rear : Bool) : Float × Scorer :=
  match s.cache with
  | none => (s.score context word rear, s)
  | some c =>
    match c.get? (context, word, rear) with
    | (some v, c') => (v, { s with cache := some c' })
    | (none, c') =>
      let v := s.score context word rear
      (v, { s with cache := some (c'.put (context, word, rear) v) })

/-- Cache answers, at most `capacity` of them; a capacity of zero caches nothing. -/
def withCache (s : Scorer) (capacity : Nat) : Scorer :=
  { s with cache := if capacity = 0 then none else some { capacity } }

end Scorer

/-- A grammar: a bigram scorer, or fixed scores for given questions (zero for others). -/
inductive Grammar where
  | bigram (s : Scorer)
  | fixed (rows : List (Query × Float))

/-- Ask a grammar; a bigram scorer may update its cache. -/
def Grammar.query : Grammar → String → String → Bool → Float × Grammar
  | .bigram s, context, word, rear =>
    let (v, s') := s.query context word rear
    (v, .bigram s')
  | .fixed rows, context, word, rear =>
    (((rows.find? (·.1 == (context, word, rear))).map Prod.snd).getD 0.0, .fixed rows)

end InputMethod
