import InputMethod.Conversion.Dictionary
import InputMethod.Proofs.Text.Splitting

/-! # Lookups through a dictionary's index

A text dictionary finds a word, and the longest key that begins a text, by walking bytes through
its index, a transducer that represents the map from each key's bytes to the position of its
entry. This module says what the two walks find in terms of the entries alone.

The prefix walk records a position each time the bytes read so far end at a character boundary
and have a value, and it answers the last one (`prefixWalk_eq`). The bytes of a key that begins
a text always end at a character boundary of it (`Text.isValid_of_isPrefix`), so the boundary
test hides no key, and the last recorded position is the end of the longest key. The walk's hit
is therefore the first entry with the longest key whose bytes begin the text, and nothing when
there is none (`isLongestHit_matchPrefix_text`). A fold over the entries that keeps the longer of
two keys finds the same entry (`isLongestHit_foldl`), and the two are equal
(`matchPrefix_text`). The word lookup finds the first entry with the word as its key
(`matchWord_text`).
-/

namespace InputMethod

namespace Text

theorem length_bytes (s : String) : (bytes s).length = s.utf8ByteSize := by
  simp [bytes]

theorem bytes_injective : Function.Injective bytes := fun _ _ same =>
  String.toByteArray_inj.mp (ByteArray.ext (Array.ext' same))

theorem beq_bytes (a b : String) : (bytes a == bytes b) = (a == b) := by
  rw [Bool.eq_iff_iff, beq_iff_eq, beq_iff_eq, bytes_injective.eq_iff]

theorem bytesBegin_iff_isPrefix (key text : String) :
    BytesBegin key text ↔ bytes key <+: bytes text := by
  constructor
  · rintro ⟨rest, split⟩
    exact ⟨rest.data.toList, by simp [bytes, ← split]⟩
  · rintro ⟨rest, split⟩
    refine ⟨⟨rest.toArray⟩, ByteArray.ext (Array.ext' ?_)⟩
    simpa [bytes] using split

/-- Two keys of one byte length whose bytes begin one text are one key. -/
theorem eq_of_isPrefix_of_size {a b text : String} (first : bytes a <+: bytes text)
    (second : bytes b <+: bytes text) (sameSize : a.utf8ByteSize = b.utf8ByteSize) : a = b := by
  have sameLength : (bytes a).length = (bytes b).length := by
    rw [length_bytes, length_bytes, sameSize]
  apply bytes_injective
  exact (List.prefix_of_prefix_length_le first second (Nat.le_of_eq sameLength)).eq_of_length
    sameLength

theorem eq_of_bytesBegin {a b text : String} (first : BytesBegin a text)
    (second : BytesBegin b text) (sameSize : a.utf8ByteSize = b.utf8ByteSize) : a = b :=
  eq_of_isPrefix_of_size ((bytesBegin_iff_isPrefix a text).mp first)
    ((bytesBegin_iff_isPrefix b text).mp second) sameSize

theorem isPrefixOf_iff_isPrefix (key text : String) :
    key.isPrefixOf text = true ↔ bytes key <+: bytes text :=
  (isPrefixOf_iff_bytesBegin key text).trans (bytesBegin_iff_isPrefix key text)

/-- The bytes of a key that begins a text end at a character boundary of the text. -/
theorem isValid_of_isPrefix {key text : String} (prefixed : bytes key <+: bytes text) :
    String.Pos.Raw.isValid text ⟨(bytes key).length⟩ = true := by
  obtain ⟨rest, split⟩ :=
    String.startsWith_string_iff.mp ((isPrefixOf_iff_isPrefix key text).mpr prefixed)
  have whole : text = key ++ String.ofList rest :=
    String.toList_injective (by simp [← split])
  rw [String.Pos.Raw.isValid_eq_true_iff, whole, length_bytes]
  exact String.Pos.Raw.isValid_rawEndPos.append_right _

end Text

namespace Fst

theorem run_append (fst : Fst) (p q : List UInt8) (node out : Nat) :
    fst.run (p ++ q) node out =
      (fst.run p node out).bind fun reached => fst.run q reached.1 reached.2 := by
  induction p generalizing node out with
  | nil => rfl
  | cons b bs inductionHypothesis =>
    rw [List.cons_append, run, run]
    cases fst.transition node b with
    | none => rfl
    | some t => exact inductionHypothesis t.addr (out + t.out)

end Fst

namespace Dictionary

/-! ## The prefix walk -/

/-- The position the prefix walk of `text` records after its first `n` bytes: their value,
    when they end at a character boundary. -/
def hitAt (index : Fst) (text : String) (n : Nat) : Option Nat :=
  if String.Pos.Raw.isValid text ⟨n⟩ then index.get ((Text.bytes text).take n) else none

theorem prefixWalk_go (index : Fst) (text : String) :
    ∀ (rest : List UInt8) (i node out : Nat) (longest : Option Nat),
      (Text.bytes text).drop i = rest →
      index.run ((Text.bytes text).take i) index.root 0 = some (node, out) →
      prefixWalk.go index text rest i node out longest =
        ((List.range' (i + 1) rest.length).reverse.findSome? (hitAt index text)).or longest
  | [], _, _, _, _, _, _ => by simp [prefixWalk.go]
  | b :: bs, i, node, out, longest, rest, reached => by
    have through : ∀ k, (Text.bytes text).take (i + 1 + k) =
        (Text.bytes text).take i ++ b :: bs.take k := fun k => by
      rw [Nat.add_assoc, Nat.add_comm 1 k, List.take_add, rest, List.take_succ_cons]
    rw [prefixWalk.go]
    cases step : index.transition node b with
    -- no byte string through the missing transition has a value, so no later position has a hit
    | none =>
      have nothingLater : ∀ m ∈ (List.range' (i + 1) (bs.length + 1)).reverse,
          hitAt index text m = none := by
        intro m member
        obtain ⟨k, rfl⟩ :=
          Nat.exists_eq_add_of_le (List.mem_range'_1.mp (List.mem_reverse.mp member)).1
        simp [hitAt, Fst.get, through, Fst.run_append, reached, Fst.run, step]
      rw [List.length_cons, List.findSome?_eq_none_iff.mpr nothingLater, Option.none_or]
    | some t =>
      have reachedNext : index.run ((Text.bytes text).take (i + 1)) index.root 0 =
          some (t.addr, out + t.out) := by
        simpa [Fst.run_append, reached, Fst.run, step] using congrArg (index.run · index.root 0)
          (through 0)
      have restNext : (Text.bytes text).drop (i + 1) = bs := by
        rw [← List.drop_drop, rest, List.drop_one, List.tail_cons]
      -- the position after this byte is recorded exactly when it has a hit
      have recorded : (if index.isFinal t.addr && String.Pos.Raw.isValid text ⟨i + 1⟩ then
          some (out + t.out + index.finalOutput t.addr) else longest) =
          (hitAt index text (i + 1)).or longest := by
        unfold hitAt Fst.get
        rw [reachedNext]
        cases final : index.isFinal t.addr <;> cases String.Pos.Raw.isValid text ⟨i + 1⟩ <;>
          simp [final]
      dsimp only
      rw [prefixWalk_go index text bs (i + 1) t.addr (out + t.out) _ restNext reachedNext, recorded,
        List.length_cons, List.range'_succ, List.reverse_cons, List.findSome?_append,
        Option.or_assoc]
      simp

/-- The prefix walk answers the last position of the text with a hit. -/
theorem prefixWalk_eq (index : Fst) (text : String) :
    prefixWalk index text =
      (List.range' 1 (Text.bytes text).length).reverse.findSome? (hitAt index text) := by
  rw [prefixWalk, prefixWalk_go index text _ 0 index.root 0 none (List.drop_zero) (by rfl),
    Option.or_none]

/-! ## Positions and entries -/

theorem lookup_zipIdx (w : List UInt8) : ∀ (entries : List Entry) (k : Nat),
    List.lookup w ((entries.zipIdx k).map fun (e, i) => (Text.bytes e.key, i)) =
      (entries.findIdx? fun e => Text.bytes e.key == w).map (· + k)
  | [], _ => rfl
  | e :: rest, k => by
    rw [List.zipIdx_cons, List.map_cons, List.lookup_cons, List.findIdx?_cons,
      lookup_zipIdx w rest (k + 1)]
    by_cases same : Text.bytes e.key = w
    · simp [same]
    · have differs : (w == Text.bytes e.key) = false :=
        beq_eq_false_iff_ne.mpr fun equal => same equal.symm
      simp only [differs, beq_iff_eq, same, if_false, Option.map_map]
      exact congrArg (Option.map · _) (funext fun x => by simp only [Function.comp]; omega)

theorem lookup_keyIndex (w : List UInt8) (entries : List Entry) :
    List.lookup w (Entry.keyIndex entries) = entries.findIdx? fun e => Text.bytes e.key == w := by
  simpa [Entry.keyIndex] using lookup_zipIdx w entries 0

theorem bind_findSome? {α β γ : Type} {l : List α} {f : α → Option β} {g : β → Option γ}
    (kept : ∀ x, ∀ b ∈ f x, (g b).isSome) :
    (l.findSome? f).bind g = l.findSome? fun x => (f x).bind g := by
  induction l with
  | nil => rfl
  | cons x rest inductionHypothesis =>
    rw [List.findSome?_cons, List.findSome?_cons]
    cases found : f x with
    | none => exact inductionHypothesis
    | some b =>
      obtain ⟨c, read⟩ := Option.isSome_iff_exists.mp (kept x b found)
      simp [read]

/-- The entry the prefix walk of `text` records after its first `n` bytes: the first entry
    whose key has those bytes, when they end at a character boundary. -/
def entryAt (entries : List Entry) (text : String) (n : Nat) : Option Entry :=
  if String.Pos.Raw.isValid text ⟨n⟩ then
    entries.find? fun e => Text.bytes e.key == (Text.bytes text).take n
  else none

section Walk

variable {entries : List Entry} {index : Fst} {keyed : ∀ e ∈ entries, e.key ≠ ""}
  {indexed : index.Represents (Entry.keyIndex entries)}

theorem matchPrefix_text_eq_findSome? (t : String) :
    (Dictionary.text entries index keyed indexed).matchPrefix t =
      (List.range' 1 (Text.bytes t).length).reverse.findSome? (entryAt entries t) := by
  have atHit : ∀ n, (hitAt index t n).bind (entries[·]?) = entryAt entries t n := fun n => by
    rw [hitAt, entryAt, indexed, lookup_keyIndex, List.find?_eq_bind_findIdx?_getElem?]
    split <;> rfl
  have kept : ∀ n, ∀ i ∈ hitAt index t n, (entries[i]?).isSome := fun n i found => by
    rw [hitAt, indexed, lookup_keyIndex] at found
    split at found
    · obtain ⟨inside, -⟩ := List.findIdx?_eq_some_iff_getElem.mp found
      simp [inside]
    · cases found
  rw [matchPrefix, prefixWalk_eq, bind_findSome? kept]
  exact congrArg (List.findSome? · _) (funext atHit)

end Walk

theorem entryAt_eq_some {entries : List Entry} {text : String} {n : Nat} {y : Entry}
    (found : entryAt entries text n = some y) :
    entries.find? (·.key == y.key) = some y ∧ Text.bytes y.key = (Text.bytes text).take n := by
  unfold entryAt at found
  split at found
  · have keyBytes : Text.bytes y.key = (Text.bytes text).take n := by
      simpa using List.find?_some found
    refine ⟨?_, keyBytes⟩
    simpa [← keyBytes, Text.beq_bytes] using found
  · cases found

theorem entryAt_isSome {entries : List Entry} {text : String} {x : Entry} (member : x ∈ entries)
    (prefixed : Text.bytes x.key <+: Text.bytes text) :
    (entryAt entries text (Text.bytes x.key).length).isSome := by
  rw [entryAt, if_pos (Text.isValid_of_isPrefix prefixed)]
  exact List.find?_isSome.mpr ⟨x, member, by simpa using List.prefix_iff_eq_take.mp prefixed⟩

theorem mem_of_reverse_range' {L n m : Nat} {l₁ l₂ : List Nat}
    (split : (List.range' 1 L).reverse = l₁ ++ n :: l₂) (above : n < m) (within : m ≤ L) :
    m ∈ l₁ := by
  have descending : (l₁ ++ n :: l₂).Pairwise (· > ·) := by
    rw [← split, List.pairwise_reverse]
    exact List.pairwise_lt_range'
  have member : m ∈ l₁ ++ n :: l₂ := by
    rw [← split, List.mem_reverse, List.mem_range'_1]
    omega
  rcases List.mem_append.mp member with early | late
  · exact early
  · have below : ∀ k ∈ n :: l₂, k ≤ n := by
      intro k held
      rcases List.mem_cons.mp held with rfl | after
      · exact Nat.le_refl k
      · exact Nat.le_of_lt ((List.pairwise_cons.mp (List.pairwise_append.mp descending).2.1).1
          k after)
    exact absurd (below m late) (Nat.not_le_of_lt above)

/-! ## The longest hit -/

/-- `hit` is what a longest-prefix lookup over `entries` finds for `text`: nothing when no key's
    bytes begin the text's, and otherwise the first entry with the longest key that does. -/
structure IsLongestHit (entries : List Entry) (text : String) (hit : Option Entry) : Prop where
  none_iff : hit = none ↔ ∀ e ∈ entries, ¬Text.bytes e.key <+: Text.bytes text
  first : ∀ y ∈ hit, entries.find? (·.key == y.key) = some y
  begins : ∀ y ∈ hit, Text.bytes y.key <+: Text.bytes text
  longest : ∀ y ∈ hit, ∀ x ∈ entries, Text.bytes x.key <+: Text.bytes text →
    x.keyLength ≤ y.keyLength

/-- There is one longest hit: two keys of one length that begin a text are one key, and the
    first entry with it is one entry. -/
theorem IsLongestHit.unique {entries : List Entry} {text : String} {a b : Option Entry}
    (isA : IsLongestHit entries text a) (isB : IsLongestHit entries text b) : a = b := by
  cases a with
  | none => exact (isB.none_iff.mpr (isA.none_iff.mp rfl)).symm
  | some y =>
    cases b with
    | none => exact absurd (isA.none_iff.mpr (isB.none_iff.mp rfl)) (Option.some_ne_none y)
    | some z =>
      have firstY := isA.first y rfl
      have firstZ := isB.first z rfl
      have sameLength : y.keyLength = z.keyLength := Nat.le_antisymm
        (isB.longest z rfl y (List.mem_of_find?_eq_some firstY) (isA.begins y rfl))
        (isA.longest y rfl z (List.mem_of_find?_eq_some firstZ) (isB.begins z rfl))
      have sameKey : y.key = z.key :=
        Text.eq_of_isPrefix_of_size (isA.begins y rfl) (isB.begins z rfl) sameLength
      rw [← firstY, ← firstZ, sameKey]

theorem isLongestHit_findSome? {entries : List Entry} (keyed : ∀ e ∈ entries, e.key ≠ "")
    (t : String) :
    IsLongestHit entries t
      ((List.range' 1 (Text.bytes t).length).reverse.findSome? (entryAt entries t)) := by
  have keyLengthPos : ∀ e ∈ entries, 0 < (Text.bytes e.key).length := fun e member => by
    rw [Text.length_bytes, Nat.pos_iff_ne_zero, Ne, String.utf8ByteSize_eq_zero_iff]
    exact keyed e member
  refine ⟨⟨fun nothing x member prefixed => ?_, fun never => ?_⟩, ?_, ?_, ?_⟩
  -- a key that begins the text is recorded at one of the walk's positions
  · have recorded := entryAt_isSome member prefixed
    rw [List.findSome?_eq_none_iff.mp nothing _ (by
      rw [List.mem_reverse, List.mem_range'_1]
      have := prefixed.length_le
      have := keyLengthPos x member
      omega)] at recorded
    cases recorded
  · refine List.findSome?_eq_none_iff.mpr fun n _ => ?_
    cases found : entryAt entries t n with
    | none => rfl
    | some y =>
      obtain ⟨first, keyBytes⟩ := entryAt_eq_some found
      exact absurd (keyBytes ▸ List.take_prefix n _) (never y (List.mem_of_find?_eq_some first))
  all_goals
    intro y found
    obtain ⟨l₁, n, l₂, split, atN, beforeN⟩ := List.findSome?_eq_some_iff.mp found
    obtain ⟨first, keyBytes⟩ := entryAt_eq_some atN
  · exact first
  · exact keyBytes ▸ List.take_prefix n _
  -- a longer key that begins the text would be recorded at a later position, before `n`
  · intro x member prefixed
    have nWithin : n ≤ (Text.bytes t).length := by
      have held : n ∈ (List.range' 1 (Text.bytes t).length).reverse := by simp [split]
      rw [List.mem_reverse, List.mem_range'_1] at held
      omega
    have yLength : y.keyLength = n := by
      rw [Entry.keyLength, ← Text.length_bytes, keyBytes, List.length_take_of_le nWithin]
    rw [yLength, Entry.keyLength, ← Text.length_bytes]
    apply Nat.le_of_not_lt
    intro longer
    have recorded := entryAt_isSome member prefixed
    rw [beforeN _ (mem_of_reverse_range' split longer prefixed.length_le)] at recorded
    cases recorded

/-! ## The longest-prefix fold -/

theorem longer_some (best : Option Entry) (x : Entry) :
    ∃ y, longer best (some x) = some y ∧ (y ∈ best ∨ y = x) ∧
      (∀ z ∈ best, z.keyLength ≤ y.keyLength) ∧ x.keyLength ≤ y.keyLength := by
  cases best with
  | none => exact ⟨x, rfl, .inr rfl, by simp, Nat.le_refl _⟩
  | some b =>
    by_cases shorter : b.keyLength < x.keyLength
    · exact ⟨x, by simp [longer, shorter], .inr rfl, by simpa using Nat.le_of_lt shorter,
        Nat.le_refl _⟩
    · exact ⟨b, by simp [longer, shorter], .inl rfl, by simp, by omega⟩

theorem longer_some_eq {best : Option Entry} {x y : Entry} (kept : longer best (some x) = some y) :
    best = some y ∨ (y = x ∧ ∀ b ∈ best, b.keyLength < x.keyLength) := by
  cases best with
  | none => exact .inr ⟨(Option.some.inj kept).symm, by simp⟩
  | some b =>
    by_cases shorter : b.keyLength < x.keyLength
    · simp only [longer, shorter, if_true, Option.some.injEq] at kept
      exact .inr ⟨kept.symm, by simpa using shorter⟩
    · simp only [longer, shorter, if_false, Option.some.injEq] at kept
      exact .inl (congrArg some kept)

theorem foldl_longer (t : String) (entries : List Entry) (best : Option Entry) :
    (entries.foldl (fun best e => if e.key.isPrefixOf t then longer best (some e) else best)
        best = none ↔ best = none ∧ ∀ x ∈ entries, x.key.isPrefixOf t = false) ∧
      ∀ y, entries.foldl (fun best e => if e.key.isPrefixOf t then longer best (some e) else best)
          best = some y →
        (y ∈ best ∨ y ∈ entries) ∧ (∀ z ∈ best, z.keyLength ≤ y.keyLength) ∧
          ∀ x ∈ entries, x.key.isPrefixOf t = true → x.keyLength ≤ y.keyLength := by
  induction entries generalizing best with
  | nil =>
    refine ⟨by simp, fun y found => ?_⟩
    subst found
    simp
  | cons e rest inductionHypothesis =>
    rw [List.foldl_cons]
    obtain ⟨nothing, found⟩ := inductionHypothesis
      (if e.key.isPrefixOf t then longer best (some e) else best)
    by_cases prefixed : e.key.isPrefixOf t = true
    · obtain ⟨y', grown, whence, longerThanBest, longerThanEntry⟩ := longer_some best e
      simp only [prefixed, if_true, grown] at nothing found ⊢
      refine ⟨by simp [nothing, prefixed], fun y result => ?_⟩
      obtain ⟨within, longerThanHit, longerThanRest⟩ := found y result
      have pastHit : y'.keyLength ≤ y.keyLength := longerThanHit y' rfl
      refine ⟨?_, fun z held => Nat.le_trans (longerThanBest z held) pastHit, ?_⟩
      · simp only [Option.mem_def, Option.some.injEq] at within
        rcases within with rfl | later
        · rcases whence with held | rfl
          · exact .inl held
          · exact .inr List.mem_cons_self
        · exact .inr (List.mem_cons_of_mem _ later)
      · intro x member prefixedX
        rcases List.mem_cons.mp member with rfl | later
        · exact Nat.le_trans longerThanEntry pastHit
        · exact longerThanRest x later prefixedX
    · simp only [prefixed, Bool.false_eq_true, if_false] at nothing found ⊢
      refine ⟨by simp [nothing, prefixed], fun y result => ?_⟩
      obtain ⟨within, longerThanHit, longerThanRest⟩ := found y result
      refine ⟨within.imp_right (List.mem_cons_of_mem _), longerThanHit, ?_⟩
      intro x member prefixedX
      rcases List.mem_cons.mp member with rfl | later
      · exact absurd prefixedX prefixed
      · exact longerThanRest x later prefixedX

theorem foldl_first (t : String) : ∀ (entries : List Entry) (best : Option Entry) (y : Entry),
    entries.foldl (fun best e => if e.key.isPrefixOf t then longer best (some e) else best)
        best = some y →
      best = some y ∨ (entries.find? (·.key == y.key) = some y ∧ y.key.isPrefixOf t = true ∧
        ∀ b ∈ best, b.keyLength < y.keyLength)
  | [], _, _, found => .inl found
  | e :: rest, best, y, found => by
    rw [List.foldl_cons] at found
    by_cases prefixed : e.key.isPrefixOf t = true
    · rw [if_pos prefixed] at found
      obtain ⟨z, grown, -, longerThanBest, longerThanEntry⟩ := longer_some best e
      rcases foldl_first t rest _ y found with kept | ⟨first, begins, longerThanKept⟩
      · rw [grown] at kept
        rcases longer_some_eq (grown.trans kept) with earlier | ⟨rfl, longerThanBest'⟩
        · exact .inl earlier
        · exact .inr ⟨by simp, prefixed, longerThanBest'⟩
      -- an entry with the key found later would have made the hit at least as long already
      · have longerThanZ := longerThanKept z grown
        have differs : (e.key == y.key) = false := by
          rw [beq_eq_false_iff_ne]
          intro same
          have : e.keyLength = y.keyLength := by rw [Entry.keyLength, Entry.keyLength, same]
          omega
        refine .inr ⟨by rw [List.find?_cons, differs, first], begins, fun b held => ?_⟩
        exact Nat.lt_of_le_of_lt (longerThanBest b held) longerThanZ
    · rw [if_neg prefixed] at found
      rcases foldl_first t rest best y found with kept | ⟨first, begins, longerThanBest⟩
      · exact .inl kept
      · have differs : (e.key == y.key) = false := by
          rw [beq_eq_false_iff_ne]
          rintro same
          exact prefixed (same ▸ begins)
        exact .inr ⟨by rw [List.find?_cons, differs, first], begins, longerThanBest⟩

/-- The longest-prefix fold from nothing finds the longest hit. -/
theorem isLongestHit_foldl (entries : List Entry) (t : String) :
    IsLongestHit entries t
      (entries.foldl (fun best e => if e.key.isPrefixOf t then longer best (some e) else best)
        none) := by
  refine ⟨?_, ?_, ?_, ?_⟩
  · rw [(foldl_longer t entries none).1]
    simp [← Text.isPrefixOf_iff_isPrefix]
  all_goals
    intro y found
    rcases foldl_first t entries none y found with nothing | ⟨first, begins, -⟩
    · cases nothing
  · exact first
  · exact (Text.isPrefixOf_iff_isPrefix _ _).mp begins
  · intro x member prefixed
    exact (foldl_longer t entries none).2 y found |>.2.2 x member
      ((Text.isPrefixOf_iff_isPrefix _ _).mpr prefixed)

/-! ## Text dictionaries -/

section Text

variable {entries : List Entry} {index : Fst} {keyed : ∀ e ∈ entries, e.key ≠ ""}
  {indexed : index.Represents (Entry.keyIndex entries)}

/-- The prefix walk through the index finds the first entry with the longest key that begins
    the text. -/
theorem isLongestHit_matchPrefix_text (t : String) :
    IsLongestHit entries t ((Dictionary.text entries index keyed indexed).matchPrefix t) := by
  rw [matchPrefix_text_eq_findSome?]
  exact isLongestHit_findSome? keyed t

/-- The prefix walk through the index finds what the longest-prefix fold over the entries
    finds. -/
theorem matchPrefix_text (t : String) :
    (Dictionary.text entries index keyed indexed).matchPrefix t =
      entries.foldl (fun best e => if e.key.isPrefixOf t then longer best (some e) else best)
        none :=
  (isLongestHit_matchPrefix_text t).unique (isLongestHit_foldl entries t)

/-- The word lookup through the index finds the first entry whose key is the word. -/
theorem matchWord_text (w : String) :
    (Dictionary.text entries index keyed indexed).matchWord w =
      if w.isEmpty then none else entries.find? (·.key == w) := by
  rw [matchWord, indexed, lookup_keyIndex, ← List.find?_eq_bind_findIdx?_getElem?]
  simp only [Text.beq_bytes]

end Text

end Dictionary

end InputMethod
