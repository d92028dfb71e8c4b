/-! # Finite state transducers

A text dictionary finds its keys through a finite state transducer that maps each key, as
bytes, to the position of its entry. The transducer comes from the `fst` crate and is used only
through its raw walk: from the root node each byte follows at most one transition, which adds
its output to the sum so far and leads to another node, and a node may be final, with a final
output of its own. Following a key from the root and adding the final output of the node
reached gives the key's value (`Fst.get`); a transducer *represents* a map when this walk
answers the map's value for every byte string (`Fst.Represents`).

The crate is not part of the library. What the lookups of a dictionary rely on is `Represents`
of its index, and nothing else; `Fst.ofPairs` is one transducer that represents any map, the one
dictionaries are built with here. Its nodes are the prefixes of the keys and its outputs sit on
the final nodes. `Fst.build` adds the crate's refusal of keys that do not come in strictly
ascending byte order.
-/

namespace InputMethod

namespace Text

/-- The UTF-8 bytes of a text. -/
def bytes (s : String) : List UInt8 := s.toByteArray.data.toList

end Text

/-- A transition of a transducer: the output it adds and the address of the node it leads to. -/
structure Fst.Transition where
  out : Nat
  addr : Nat

/-- A compiled transducer as its raw walk sees it: nodes by address, the transition of a node on
    a byte, whether a node is final, and its final output. -/
structure Fst where
  root : Nat
  transition : Nat → UInt8 → Option Fst.Transition
  isFinal : Nat → Bool
  finalOutput : Nat → Nat

/-- Why a transducer could not be built: a key equal to the one before it, or below it. -/
inductive FstError where
  | duplicateKey (got : List UInt8)
  | outOfOrder (previous got : List UInt8)

/-- The description of a build error, with the keys shown as text. -/
def FstError.message : FstError → String
  | .duplicateKey got => "Error inserting duplicate key: '" ++ shown got ++ "'."
  | .outOfOrder previous got =>
    "Error inserting out-of-order key: '" ++ shown got ++ "'. (Previous key was '" ++
      shown previous ++ "'.) Keys must be inserted in lexicographic order."
where
  shown (key : List UInt8) : String := (String.fromUTF8? ⟨key.toArray⟩).getD (toString key)

namespace Fst

/-- Follow `bytes` from `node` with `out` added so far: the node reached and the output, or
    nothing where a byte has no transition. -/
def run (fst : Fst) : List UInt8 → Nat → Nat → Option (Nat × Nat)
  | [], node, out => some (node, out)
  | b :: bs, node, out =>
    match fst.transition node b with
    | some t => fst.run bs t.addr (out + t.out)
    | none => none

/-- The value of `key`: the output of its walk from the root and of the final node it reaches. -/
def get (fst : Fst) (key : List UInt8) : Option Nat :=
  match fst.run key fst.root 0 with
  | some (node, out) => if fst.isFinal node then some (out + fst.finalOutput node) else none
  | none => none

/-- The transducer represents `pairs`: every byte string's value is the one `pairs` gives it,
    the first pair's for a key that occurs twice. -/
def Represents (fst : Fst) (pairs : List (List UInt8 × Nat)) : Prop :=
  ∀ key, fst.get key = List.lookup key pairs

/-! ## A transducer for every map -/

def prefixNodes (pairs : List (List UInt8 × Nat)) : List (List UInt8) :=
  [] :: pairs.flatMap fun p => (List.range (p.1.length + 1)).map p.1.take

/-- A transducer that represents `pairs`, in whatever order they come. -/
def ofPairs (pairs : List (List UInt8 × Nat)) : Fst where
  root := 0
  transition node b :=
    match (prefixNodes pairs)[node]? with
    | some w =>
      if w ++ [b] ∈ prefixNodes pairs then some ⟨0, (prefixNodes pairs).idxOf (w ++ [b])⟩
      else none
    | none => none
  isFinal node := ((prefixNodes pairs)[node]?.bind fun w => List.lookup w pairs).isSome
  finalOutput node := ((prefixNodes pairs)[node]?.bind fun w => List.lookup w pairs).getD 0

theorem mem_prefixNodes {pairs : List (List UInt8 × Nat)} {w : List UInt8} :
    w ∈ prefixNodes pairs ↔ w = [] ∨ ∃ p ∈ pairs, w <+: p.1 := by
  simp only [prefixNodes, List.mem_cons, List.mem_flatMap, List.mem_map, List.mem_range]
  refine or_congr_right ⟨?_, ?_⟩
  · rintro ⟨p, member, n, -, rfl⟩
    exact ⟨p, member, List.take_prefix n p.1⟩
  · rintro ⟨p, member, prefixed⟩
    exact ⟨p, member, w.length, Nat.lt_succ_of_le prefixed.length_le,
      (List.prefix_iff_eq_take.mp prefixed).symm⟩

theorem mem_prefixNodes_of_isPrefix {pairs : List (List UInt8 × Nat)} {u w : List UInt8}
    (prefixed : u <+: w) (member : w ∈ prefixNodes pairs) : u ∈ prefixNodes pairs := by
  rcases mem_prefixNodes.mp member with rfl | ⟨p, held, before⟩
  · exact mem_prefixNodes.mpr (.inl (List.prefix_nil.mp prefixed))
  · exact mem_prefixNodes.mpr (.inr ⟨p, held, prefixed.trans before⟩)

theorem mem_prefixNodes_of_lookup {pairs : List (List UInt8 × Nat)} {key : List UInt8} {v : Nat}
    (found : List.lookup key pairs = some v) : key ∈ prefixNodes pairs := by
  induction pairs with
  | nil => cases found
  | cons p rest inductionHypothesis =>
    obtain ⟨k, value⟩ := p
    by_cases same : key = k
    · exact mem_prefixNodes.mpr (.inr ⟨(k, value), List.mem_cons_self, same ▸ List.prefix_refl _⟩)
    · have differs : (key == k) = false := by simpa using same
      have later : List.lookup key rest = some v := by
        simpa [List.lookup_cons, differs] using found
      rcases mem_prefixNodes.mp (inductionHypothesis later) with empty | ⟨q, held, before⟩
      · exact mem_prefixNodes.mpr (.inl empty)
      · exact mem_prefixNodes.mpr (.inr ⟨q, List.mem_cons_of_mem _ held, before⟩)

theorem getElem?_idxOf_prefixNodes {pairs : List (List UInt8 × Nat)} {w : List UInt8}
    (member : w ∈ prefixNodes pairs) :
    (prefixNodes pairs)[(prefixNodes pairs).idxOf w]? = some w := by
  rw [List.getElem?_eq_getElem (List.idxOf_lt_length_of_mem member), List.getElem_idxOf]

theorem run_ofPairs (pairs : List (List UInt8 × Nat)) :
    ∀ (bs u : List UInt8) (out : Nat), u ∈ prefixNodes pairs →
      (ofPairs pairs).run bs ((prefixNodes pairs).idxOf u) out =
        if u ++ bs ∈ prefixNodes pairs then some ((prefixNodes pairs).idxOf (u ++ bs), out)
        else none
  | [], u, out, member => by simp [run, member]
  | b :: bs, u, out, member => by
    rw [run]
    by_cases step : u ++ [b] ∈ prefixNodes pairs
    · have taken : (ofPairs pairs).transition ((prefixNodes pairs).idxOf u) b =
          some ⟨0, (prefixNodes pairs).idxOf (u ++ [b])⟩ := by
        simp only [ofPairs, getElem?_idxOf_prefixNodes member, step, if_true]
      rw [taken]
      dsimp only
      rw [run_ofPairs pairs bs (u ++ [b]) (out + 0) step, List.append_assoc, List.singleton_append,
        Nat.add_zero]
    -- a byte off every key ends the walk, and no longer string is a prefix of a key either
    · have stopped : (ofPairs pairs).transition ((prefixNodes pairs).idxOf u) b = none := by
        simp only [ofPairs, getElem?_idxOf_prefixNodes member, step, if_false]
      have beyond : u ++ b :: bs ∉ prefixNodes pairs := fun longer =>
        step (mem_prefixNodes_of_isPrefix ⟨bs, by simp⟩ longer)
      rw [stopped, if_neg beyond]

theorem ofPairs_represents (pairs : List (List UInt8 × Nat)) :
    (ofPairs pairs).Represents pairs := by
  intro key
  have rootNode : (ofPairs pairs).root = (prefixNodes pairs).idxOf [] := by
    simp [ofPairs, prefixNodes]
  have walked := run_ofPairs pairs key [] 0 (mem_prefixNodes.mpr (.inl rfl))
  rw [List.nil_append, ← rootNode] at walked
  rw [get, walked]
  by_cases member : key ∈ prefixNodes pairs
  · simp only [member, if_true, ofPairs, getElem?_idxOf_prefixNodes member, Option.bind_some,
      Nat.zero_add]
    cases List.lookup key pairs <;> rfl
  -- a string off every key has no value
  · simp only [member, if_false]
    cases found : List.lookup key pairs with
    | none => rfl
    | some v => exact absurd (mem_prefixNodes_of_lookup found) member

/-! ## Building -/

def firstDisorder : List (List UInt8) → Option FstError
  | previous :: got :: rest =>
    if got = previous then some (.duplicateKey got)
    else if got < previous then some (.outOfOrder previous got)
    else firstDisorder (got :: rest)
  | _ => none

/-- The transducer of `pairs`, whose keys must come in strictly ascending byte order. -/
def build (pairs : List (List UInt8 × Nat)) : Except FstError Fst :=
  match firstDisorder (pairs.map Prod.fst) with
  | some e => .error e
  | none => .ok (ofPairs pairs)

theorem build_represents {pairs : List (List UInt8 × Nat)} {fst : Fst}
    (built : build pairs = .ok fst) : fst.Represents pairs := by
  unfold build at built
  split at built
  · cases built
  · cases built
    exact ofPairs_represents pairs

end Fst

end InputMethod
