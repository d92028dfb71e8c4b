import InputMethod.Stream.Basic

/-! # Menus

A menu is a lazy prefix cache of a candidate stream: `prepare n` pulls candidates from the
stream until `n` are cached or the stream runs dry, and a cached candidate keeps its index
from then on. A stream found exhausted while more candidates are wanted is let go.
-/

namespace InputMethod

/-- The candidates cached so far, and the stream they come from while it may yield more. -/
structure Menu where
  source : Option Stream := none
  cached : List Candidate := []

namespace Menu

/-- A menu over `s` with nothing cached yet. -/
def ofStream (s : Stream) : Menu := { source := some s }

/-- Pull up to `wanted` more candidates after `cached` from `source`. A stream that runs dry
    is let go. -/
def fill : Nat → List Candidate → Option Stream → List Candidate × Option Stream
  | 0, cached, source => (cached, source)
  | _ + 1, cached, none => (cached, none)
  | wanted + 1, cached, some s =>
    match s.pull with
    | (some c, s') => fill wanted (cached ++ [c]) (some s')
    | (none, _) => (cached, none)

/-- Cache candidates until `count` are cached or the stream runs dry; answers how many are
    cached. -/
def prepare (count : Nat) (m : Menu) : Nat × Menu :=
  let (cached, source) := fill (count - m.cached.length) m.cached m.source
  (cached.length, { source, cached })

/-- The cached candidate at `index`. -/
def candidateAt (index : Nat) (m : Menu) : Option Candidate := m.cached[index]?

/-- Nothing cached, and nothing more to come. -/
def isEmpty (m : Menu) : Bool :=
  m.cached.isEmpty && (match m.source with
    | none => true
    | some s => s.exhausted)

end Menu

end InputMethod
