import InputMethod.Filter.Simplifier
import InputMethod.Filter.Ranking
import InputMethod.Grammar.Binary
import InputMethod.Text.Quoted

/-! # Filter chains

A schema lists the filters that candidate streams go through, in order (`Schema.filters`). Two
kinds of filter are known: the simplifier and the contextual ranking filter. A chain is built
from the list by making each entry's filter from its ticket; an entry that cannot be made is
left out, and `FilterChain.ofSchema` tells for every entry why.

Filters keep state from one use to the next: a ranking filter its clock reading and its
grammar's cache, a simplifier its engine, held in the shared `Registry`. Applying a chain runs
the stream through every filter in order, on one clock reading, and answers the resulting
stream with what the ranking filters did on the way: the candidates they gave new qualities,
in the order they did, and the questions they put to their grammars.

The grammar that ranking filters score with may come from the schema's `[grammar]` table
(`GrammarOptions.load`).
-/

namespace InputMethod

def rankingKind : String := "contextual_ranking_filter"

/-- The grammar that options name: none without a model. The model's path is relative to
    `base`; a path ending in `.tsv` holds tab-separated bigrams, any other a binary model. -/
def GrammarOptions.load (o : GrammarOptions) (fs : Files) (base : String) :
    Except Bigram.LoadError (Option Grammar) :=
  match o.model with
  | none => .ok none
  | some file => do
    let path := Path.join base file
    let model ← if Path.extension? path == some "tsv" then Bigram.loadTabSeparated fs path
      else Bigram.loadBinary fs path
    return some (.bigram (({ model, weight := o.weight } : Scorer).withCache o.cacheSize))

/-- A filter of a chain. -/
inductive Filter where
  | simplifier (s : Simplifier)
  | ranking (r : Ranker)

/-- What a stream becomes in a filter or a chain, with what the ranking filters did. -/
structure Filtered where
  stream : Stream
  rescored : List Candidate := []
  queries : List Query := []

namespace Filter

/-- The filter of a ticket, by the ticket's kind. A ranking filter scores with `grammar` and
    counts its first debounce interval from clock reading `now`. -/
def create (t : Ticket) (grammar : Option Grammar) (now : Nat) (reg : Registry) (fs : Files) :
    Except BuildError (Filter × Registry) :=
  if t.klass == simplifierKind then
    (Simplifier.create t reg fs).map fun (s, reg) => (.simplifier s, reg)
  else if t.klass == rankingKind then
    match t.schema.options t.nameSpace RankingOptions.decoder {} with
    | .ok options => .ok (.ranking { grammar, options, lastGate := now }, reg)
    | .error e => .error (.options e)
  else .error (.unknownFilter t.klass)

/-- Apply a filter to a stream at clock reading `now`. A simplifier that is on loads its engine
    first, so that its candidates convert with the engine as loaded. -/
def apply (f : Filter) (reg : Registry) (fs : Files) (s : Stream) (ctx : Option Context)
    (now : Nat) : Filtered × Filter × Registry :=
  match f with
  | .simplifier sf =>
    match sf.isOn ctx, reg.engines[sf.engine]? with
    | true, some e =>
      let (_, e) := e.prepare fs
      ({ stream := sf.apply e fs s ctx }, .simplifier sf, reg.update sf.engine e)
    | _, _ => ({ stream := s }, .simplifier sf, reg)
  | .ranking r =>
    let (ranked, r) := r.apply s ctx now
    ({ stream := ranked.stream, rescored := ranked.rescored, queries := ranked.queries },
      .ranking r, reg)

end Filter

/-- Named filters, applied in order. -/
structure FilterChain where
  stages : List (String × Filter) := []

namespace FilterChain

/-- The names of the filters, in order. -/
def names (c : FilterChain) : List String := c.stages.map Prod.fst

/-- The number of filters. -/
def size (c : FilterChain) : Nat := c.stages.length

/-- The chain as the list of its names, each quoted. -/
def describe (c : FilterChain) : String := Text.quoteList c.names

/-- Make the filters of `entries` in order: the filters made, named by their entries, and for
    every entry the reason it was left out, if it was. -/
def build (schema : Schema) (grammar : Option Grammar) (now : Nat) (fs : Files) :
    List String → Registry → List (String × Filter) × List (Option BuildError) × Registry
  | [], reg => ([], [], reg)
  | entry :: rest, reg =>
    match Filter.create (Ticket.ofEntry schema entry) grammar now reg fs with
    | .ok (f, reg) =>
      let (stages, reasons, reg) := build schema grammar now fs rest reg
      ((entry, f) :: stages, none :: reasons, reg)
    | .error e =>
      let (stages, reasons, reg) := build schema grammar now fs rest reg
      (stages, some e :: reasons, reg)

/-- The chain of a schema's filter list, and for every entry the reason it was left out. -/
def ofSchema (schema : Schema) (grammar : Option Grammar) (now : Nat) (reg : Registry)
    (fs : Files) : FilterChain × List (Option BuildError) × Registry :=
  let (stages, reasons, reg) := build schema grammar now fs schema.filters reg
  ({ stages }, reasons, reg)

def applyStages (reg : Registry) (fs : Files) (ctx : Option Context) (now : Nat) :
    List (String × Filter) → Filtered → List (String × Filter) × Filtered × Registry
  | [], acc => ([], acc, reg)
  | (name, f) :: rest, acc =>
    let (out, f, reg) := f.apply reg fs acc.stream ctx now
    let (stages, acc, reg) := applyStages reg fs ctx now rest
      { stream := out.stream, rescored := acc.rescored ++ out.rescored,
        queries := acc.queries ++ out.queries }
    ((name, f) :: stages, acc, reg)

/-- Apply the chain to a stream at clock reading `now`. -/
def apply (c : FilterChain) (reg : Registry) (fs : Files) (s : Stream) (ctx : Option Context)
    (now : Nat) : Filtered × FilterChain × Registry :=
  let (stages, out, reg) := applyStages reg fs ctx now c.stages { stream := s }
  (out, { stages }, reg)

end FilterChain

end InputMethod
