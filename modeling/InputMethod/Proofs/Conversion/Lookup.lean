import InputMethod.Conversion.Converter
import InputMethod.Proofs.Conversion.Index

/-! # Whole-word hits are longest-prefix hits

`matchWord` and `matchPrefix` are two lookups of a dictionary written apart: the first finds
the entry whose key is a word, the second the longest key that begins a text, the earliest on
a tie, and in a group the earliest member's on a tie. The main statement,
`matchWord_eq_filter`, says that they agree on whole words: the exact hit of a non-empty word
is the longest-prefix hit of that word when its key is the whole word, and there is none when
that key is shorter. It holds for text dictionaries whatever the order of their entries and
for groups nested to any depth, and it makes the default conversion of a word held as a whole
key the entry's first value (`Conversion.convert_of_matchWord`).

The argument rests on byte lengths: a key that begins a word is no longer than the word, and
as long only when it is the word (`Entry.keyLength_le_of_isPrefixOf`), so a whole-word hit
wins every comparison of `longer` it enters and loses none to an earlier one.
-/

namespace InputMethod

namespace Entry

def isWhole (w : String) (e : Entry) : Bool := !w.isEmpty && e.key == w

/-- A key that begins `w` is no longer than `w`, and as long only when it is `w`. -/
theorem keyLength_le_of_isPrefixOf {e : Entry} {w : String}
    (prefixed : e.key.isPrefixOf w = true) :
    e.keyLength ≤ w.utf8ByteSize ∧ (e.keyLength = w.utf8ByteSize → e.key = w) := by
  obtain ⟨rest, split⟩ := String.startsWith_string_iff.mp prefixed
  have whole : w = e.key ++ String.ofList rest :=
    String.toList_injective (by simp [← split])
  unfold keyLength
  rw [whole, String.utf8ByteSize_append]
  refine ⟨Nat.le_add_right _ _, fun same => ?_⟩
  have emptyRest : (String.ofList rest).utf8ByteSize = 0 := by omega
  rw [String.utf8ByteSize_eq_zero_iff.mp emptyRest, String.append_empty]

theorem isWhole_iff {e : Entry} {w : String} (prefixed : e.key.isPrefixOf w = true) :
    e.isWhole w = true ↔ w ≠ "" ∧ e.keyLength = w.utf8ByteSize := by
  have bounds := keyLength_le_of_isPrefixOf prefixed
  simp only [isWhole, Bool.and_eq_true, Bool.not_eq_true', beq_iff_eq, ne_eq,
    ← String.isEmpty_iff, Bool.not_eq_true]
  constructor
  · rintro ⟨nonempty, rfl⟩
    exact ⟨nonempty, rfl⟩
  · rintro ⟨nonempty, same⟩
    exact ⟨nonempty, bounds.2 same⟩

theorem isPrefixOf_self (w : String) : w.isPrefixOf w = true :=
  String.startsWith_string_iff.mpr (List.prefix_refl _)

end Entry

namespace Dictionary

/-! ## Comparing two hits -/

theorem longer_eq_or (a b : Option Entry) : longer a b = a ∨ longer a b = b := by
  cases a with
  | none => exact .inr rfl
  | some x =>
    cases b with
    | none => exact .inl rfl
    | some y =>
      by_cases shorter : x.keyLength < y.keyLength
      · exact .inr (by simp [longer, shorter])
      · exact .inl (by simp [longer, shorter])

theorem filter_longer {w : String} {a b : Option Entry}
    (beginsFirst : ∀ x ∈ a, x.key.isPrefixOf w = true)
    (beginsSecond : ∀ y ∈ b, y.key.isPrefixOf w = true) :
    (longer a b).filter (Entry.isWhole w) =
      (a.filter (Entry.isWhole w)).or (b.filter (Entry.isWhole w)) := by
  cases a with
  | none => simp [longer]
  | some x =>
    cases b with
    | none => simp [longer]
    | some y =>
      have xPrefix := beginsFirst x rfl
      have yPrefix := beginsSecond y rfl
      have xBound := (Entry.keyLength_le_of_isPrefixOf xPrefix).1
      have yBound := (Entry.keyLength_le_of_isPrefixOf yPrefix).1
      have xWhole := Entry.isWhole_iff xPrefix
      have yWhole := Entry.isWhole_iff yPrefix
      by_cases shorter : x.keyLength < y.keyLength
      -- the second wins, and the first, shorter than a prefix, is not whole
      · have xPart : x.isWhole w = false := by
          rw [← Bool.not_eq_true, xWhole]
          rintro ⟨-, same⟩
          omega
        simp [longer, shorter, Option.filter, xPart]
      · cases firstWhole : x.isWhole w with
        | true => simp [longer, shorter, Option.filter, firstWhole]
        -- the first wins but is not whole, so the second, no longer, is not whole either
        | false =>
          have yPart : y.isWhole w = false := by
            rw [← Bool.not_eq_true, yWhole]
            rw [← Bool.not_eq_true, xWhole] at firstWhole
            rintro ⟨nonempty, same⟩
            exact firstWhole ⟨nonempty, by omega⟩
          simp [longer, shorter, Option.filter, firstWhole, yPart]

/-! ## Text dictionaries -/

theorem filter_foldl (w : String) (entries : List Entry) (best : Option Entry)
    (begins : ∀ x ∈ best, x.key.isPrefixOf w = true) :
    (entries.foldl (fun best e => if e.key.isPrefixOf w then longer best (some e) else best)
      best).filter (Entry.isWhole w) =
      (best.filter (Entry.isWhole w)).or (entries.find? (Entry.isWhole w)) := by
  induction entries generalizing best with
  | nil => simp
  | cons e rest inductionHypothesis =>
    rw [List.foldl_cons]
    split
    · next prefixed =>
      have stillBegins : ∀ x ∈ longer best (some e), x.key.isPrefixOf w = true := by
        rcases longer_eq_or best (some e) with kept | replaced
        · rwa [kept]
        · rw [replaced]
          intro x found
          cases found
          exact prefixed
      rw [inductionHypothesis _ stillBegins,
        filter_longer begins (fun x found => by cases found; exact prefixed), Option.or_assoc]
      cases whole : e.isWhole w <;> simp [Option.filter, whole]
    -- an entry that does not begin the word is not whole
    · next notPrefixed =>
      have notWhole : e.isWhole w = false := by
        cases whole : e.isWhole w with
        | false => rfl
        | true =>
          obtain ⟨-, same⟩ := (by simpa [Entry.isWhole] using whole : ¬w = "" ∧ e.key = w)
          exact absurd (same ▸ Entry.isPrefixOf_self w) notPrefixed
      rw [inductionHypothesis best begins, List.find?_cons, notWhole]

/-! ## Dictionaries nested to any depth -/

mutual

/-- A longest-prefix hit begins the text. -/
theorem matchPrefix_begins (t : String) :
    ∀ d : Dictionary, ∀ x ∈ d.matchPrefix t, x.key.isPrefixOf t = true
  | .text _ _ _ _ => fun x found =>
    (Text.isPrefixOf_iff_isPrefix _ _).mpr ((isLongestHit_matchPrefix_text t).begins x found)
  | .group members => by
    rw [matchPrefix]
    exact matchPrefixIn_begins t members

theorem matchPrefixIn_begins (t : String) :
    ∀ members : List Dictionary, ∀ x ∈ matchPrefixIn t members, x.key.isPrefixOf t = true
  | [] => fun _ found => nomatch found
  | d :: rest => by
    rw [matchPrefixIn]
    rcases longer_eq_or (matchPrefix t d) (matchPrefixIn t rest) with first | second
    · rw [first]
      exact matchPrefix_begins t d
    · rw [second]
      exact matchPrefixIn_begins t rest

end

mutual

/-- The exact hit of a word is the longest-prefix hit of the word, when that is the whole
    non-empty word. -/
theorem matchWord_eq_filter (w : String) :
    ∀ d : Dictionary, d.matchWord w = (d.matchPrefix w).filter (Entry.isWhole w)
  | .text entries _ _ _ => by
    rw [matchWord_text, matchPrefix_text,
      filter_foldl w entries none (fun _ found => nomatch found)]
    by_cases empty : w.isEmpty
    -- no entry is a whole-word hit for the empty word
    · have never : Entry.isWhole w = fun _ => false :=
        funext fun e => by simp [Entry.isWhole, empty]
      simp only [empty, never, if_true]
      exact (List.find?_eq_none.mpr fun _ _ => Bool.false_ne_true).symm
    · have keyed : Entry.isWhole w = fun e => e.key == w :=
        funext fun e => by simp [Entry.isWhole, empty]
      simp [empty, keyed]
  | .group members => by
    rw [matchWord, matchPrefix]
    exact matchWordIn_eq_filter w members

theorem matchWordIn_eq_filter (w : String) :
    ∀ members : List Dictionary,
      matchWordIn w members = (matchPrefixIn w members).filter (Entry.isWhole w)
  | [] => rfl
  | d :: rest => by
    rw [matchWordIn, matchPrefixIn,
      filter_longer (matchPrefix_begins w d) (matchPrefixIn_begins w rest),
      ← matchWord_eq_filter w d, ← matchWordIn_eq_filter w rest]
    cases matchWord w d <;> rfl

end

theorem matchPrefix_of_matchWord {d : Dictionary} {w : String} {e : Entry}
    (held : d.matchWord w = some e) : d.matchPrefix w = some e ∧ w ≠ "" ∧ e.key = w := by
  rw [matchWord_eq_filter, Option.filter_eq_some_iff] at held
  obtain ⟨found, whole⟩ := held
  simp only [Entry.isWhole, Bool.and_eq_true, Bool.not_eq_true', beq_iff_eq] at whole
  exact ⟨found, fun empty => by simp [empty] at whole, whole.2⟩

end Dictionary

namespace Conversion

/-- A word that the dictionary holds as a whole key converts to the entry's first value. -/
theorem convert_of_matchWord {c : Conversion} {w : String} {e : Entry} {v : String}
    {vs : List String} (held : c.dict.matchWord w = some e) (values : e.values = v :: vs) :
    c.convert w = v := by
  obtain ⟨found, nonempty, rfl⟩ := Dictionary.matchPrefix_of_matchWord held
  obtain ⟨ch, cs, chars⟩ : ∃ ch cs, e.key.toList = ch :: cs :=
    List.exists_cons_of_ne_nil fun empty => nonempty (String.toList_eq_nil_iff.mp empty)
  have stepped : c.step Entry.default (ch :: cs) = some (e, v) := by
    have long : 0 < e.keyLength := by
      simpa [Entry.keyLength, Nat.pos_iff_ne_zero, String.utf8ByteSize_eq_zero_iff] using nonempty
    rw [step, ← chars, String.ofList_toList, found]
    simp [long, Entry.default, values]
  -- the match covers the whole word, so nothing is left to walk
  have covered : cs.drop (e.key.length - 1) = [] := by
    simp [← String.length_toList, chars]
  rw [convert, convertWith, chars, walk, stepped]
  dsimp only
  rw [covered, walk, String.append_empty]

end Conversion

end InputMethod
