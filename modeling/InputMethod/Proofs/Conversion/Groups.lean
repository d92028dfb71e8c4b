import InputMethod.Proofs.Conversion.TextForm

/-! # Lookups through nested groups

A group consults its members in order, and a member may be a group again. The exact lookup
answers the first member's hit; the longest-prefix lookup answers a member hit of greatest key
length, the earliest member's on a tie (`matchPrefixIn_eq_some_iff`). The main statement,
`group_lifts_lookups`, says what this makes of a group nested to any depth:

* its exact hit is the first member's;
* its longest-prefix hit is a member hit of greatest key length, the earliest on a tie, and it
  is an entry of the group, at some depth, whose key's bytes begin the text and that no other
  such entry outgrows (`LongestHit`); there is none exactly when no key begins the text;
* an exact hit of a word is the longest-prefix hit of that word, the very same entry.

A text dictionary's walk finds a hit of greatest length (`matchPrefix_text`) and `longer` keeps the
longer of its two hits (`longer_eq_some`), so the longest hit is carried up through the nesting
by one induction over the members, mutual with one over the dictionaries.
-/

namespace InputMethod

namespace Dictionary

open Text

/-! ## The entries at every depth -/

mutual

def allEntries : Dictionary → List Entry
  | .text entries _ _ _ => entries
  | .group members => allEntriesIn members

def allEntriesIn : List Dictionary → List Entry
  | [] => []
  | d :: rest => allEntries d ++ allEntriesIn rest

end

@[simp] theorem allEntries_text (entries : List Entry) (index : Fst)
    (keyed : ∀ e ∈ entries, e.key ≠ "") (indexed : index.Represents (Entry.keyIndex entries)) :
    (text entries index keyed indexed).allEntries = entries := by
  rw [allEntries]

@[simp] theorem allEntries_group (members : List Dictionary) :
    (group members).allEntries = allEntriesIn members := by
  rw [allEntries]

@[simp] theorem allEntriesIn_nil : allEntriesIn [] = [] := by
  rw [allEntriesIn]

@[simp] theorem allEntriesIn_cons (d : Dictionary) (rest : List Dictionary) :
    allEntriesIn (d :: rest) = d.allEntries ++ allEntriesIn rest := by
  rw [allEntriesIn]

/-- `e` is an entry of `d`, at some depth, whose key's bytes begin `t`, and no entry of `d`
    whose key's bytes begin `t` has a longer key. -/
def LongestHit (d : Dictionary) (t : String) (e : Entry) : Prop :=
  e ∈ d.allEntries ∧ BytesBegin e.key t ∧
    ∀ x ∈ d.allEntries, BytesBegin x.key t → x.keyLength ≤ e.keyLength

/-! ## The longer of two hits -/

theorem longer_eq_none {a b : Option Entry} : longer a b = none ↔ a = none ∧ b = none := by
  cases a with
  | none => simp [longer]
  | some x =>
    cases b with
    | none => simp [longer]
    | some y =>
      by_cases shorter : x.keyLength < y.keyLength <;> simp [longer, shorter]

/-- What `longer` answers is one of its hits, no shorter than either. -/
theorem longer_eq_some {a b : Option Entry} {y : Entry} (found : longer a b = some y) :
    (a = some y ∨ b = some y) ∧ (∀ x ∈ a, x.keyLength ≤ y.keyLength) ∧
      ∀ x ∈ b, x.keyLength ≤ y.keyLength := by
  cases a with
  | none => exact ⟨.inr found, by simp, fun x held => by simp_all [longer]⟩
  | some x =>
    cases b with
    | none => exact ⟨.inl found, fun z held => by simp_all [longer], by simp⟩
    | some z =>
      by_cases shorter : x.keyLength < z.keyLength
      · simp only [longer, shorter, if_true, Option.some.injEq] at found
        subst found
        exact ⟨.inr rfl, fun x' held => by cases held; omega, fun x' held => by cases held; rfl⟩
      · simp only [longer, shorter, if_false, Option.some.injEq] at found
        subst found
        exact ⟨.inl rfl, fun x' held => by cases held; rfl, fun x' held => by cases held; omega⟩

/-! ## The longest key at any depth -/

mutual

theorem matchPrefix_eq_none_iff (t : String) :
    ∀ d : Dictionary, d.matchPrefix t = none ↔ ∀ x ∈ d.allEntries, x.key.isPrefixOf t = false
  | .text entries _ _ _ => by
    rw [matchPrefix_text, (foldl_longer t entries none).1, allEntries_text]
    simp
  | .group members => by
    rw [matchPrefix, allEntries_group]
    exact matchPrefixIn_eq_none_iff t members

theorem matchPrefixIn_eq_none_iff (t : String) :
    ∀ members : List Dictionary,
      matchPrefixIn t members = none ↔ ∀ x ∈ allEntriesIn members, x.key.isPrefixOf t = false
  | [] => by simp [matchPrefixIn]
  | d :: rest => by
    rw [matchPrefixIn, longer_eq_none, matchPrefix_eq_none_iff t d,
      matchPrefixIn_eq_none_iff t rest, allEntriesIn_cons]
    simp only [List.mem_append, or_imp, forall_and]

end

theorem exists_matchPrefix {d : Dictionary} {t : String} {x : Entry} (member : x ∈ d.allEntries)
    (prefixed : x.key.isPrefixOf t = true) : ∃ y, d.matchPrefix t = some y :=
  Option.ne_none_iff_exists'.mp fun nothing => by
    simp [(matchPrefix_eq_none_iff t d).mp nothing x member] at prefixed

mutual

theorem matchPrefix_longest (t : String) :
    ∀ d : Dictionary, ∀ e ∈ d.matchPrefix t, e ∈ d.allEntries ∧
      ∀ x ∈ d.allEntries, x.key.isPrefixOf t = true → x.keyLength ≤ e.keyLength
  | .text entries _ _ _, e, found => by
    rw [matchPrefix_text] at found
    obtain ⟨whence, -, longest⟩ := (foldl_longer t entries none).2 e found
    rw [allEntries_text]
    exact ⟨by simpa using whence, longest⟩
  | .group members, e, found => by
    rw [matchPrefix] at found
    rw [allEntries_group]
    exact matchPrefixIn_longest t members e found

theorem matchPrefixIn_longest (t : String) :
    ∀ members : List Dictionary, ∀ e ∈ matchPrefixIn t members, e ∈ allEntriesIn members ∧
      ∀ x ∈ allEntriesIn members, x.key.isPrefixOf t = true → x.keyLength ≤ e.keyLength
  | [], e, found => nomatch found
  | d :: rest, e, found => by
    rw [matchPrefixIn] at found
    obtain ⟨whence, pastFirst, pastRest⟩ := longer_eq_some found
    rw [allEntriesIn_cons]
    refine ⟨?_, fun x member prefixed => ?_⟩
    · rcases whence with first | later
      · exact List.mem_append_left _ (matchPrefix_longest t d e first).1
      · exact List.mem_append_right _ (matchPrefixIn_longest t rest e later).1
    -- a key that begins the text is outgrown by its own side's hit, which `e` outgrows
    · rcases List.mem_append.mp member with inFirst | inRest
      · obtain ⟨y, hit⟩ := exists_matchPrefix inFirst prefixed
        exact Nat.le_trans ((matchPrefix_longest t d y hit).2 x inFirst prefixed) (pastFirst y hit)
      · obtain ⟨y, hit⟩ : ∃ y, matchPrefixIn t rest = some y :=
          Option.ne_none_iff_exists'.mp fun nothing => by
            simp [(matchPrefixIn_eq_none_iff t rest).mp nothing x inRest] at prefixed
        exact Nat.le_trans ((matchPrefixIn_longest t rest y hit).2 x inRest prefixed)
          (pastRest y hit)

end

theorem matchPrefix_longestHit {d : Dictionary} {t : String} {e : Entry}
    (found : d.matchPrefix t = some e) : d.LongestHit t e := by
  obtain ⟨member, longest⟩ := matchPrefix_longest t d e found
  refine ⟨member, (isPrefixOf_iff_bytesBegin _ _).mp (matchPrefix_begins t d e found), ?_⟩
  intro x held begins
  exact longest x held ((isPrefixOf_iff_bytesBegin _ _).mpr begins)

theorem matchPrefix_eq_none_iff_bytes (d : Dictionary) (t : String) :
    d.matchPrefix t = none ↔ ∀ x ∈ d.allEntries, ¬ BytesBegin x.key t := by
  rw [matchPrefix_eq_none_iff]
  simp only [← isPrefixOf_iff_bytesBegin, Bool.not_eq_true]

/-! ## The group's choice among its members -/

theorem matchPrefixIn_eq_none_iff_members (t : String) (members : List Dictionary) :
    matchPrefixIn t members = none ↔ ∀ m ∈ members, m.matchPrefix t = none := by
  induction members with
  | nil => simp [matchPrefixIn]
  | cons d rest inductionHypothesis =>
    rw [matchPrefixIn, longer_eq_none, inductionHypothesis]
    simp

theorem exists_member_of_matchPrefixIn {t : String} {members : List Dictionary} {y : Entry}
    (found : matchPrefixIn t members = some y) : ∃ m ∈ members, m.matchPrefix t = some y := by
  induction members with
  | nil => cases found
  | cons d rest inductionHypothesis =>
    rw [matchPrefixIn] at found
    rcases (longer_eq_some found).1 with first | later
    · exact ⟨d, List.mem_cons_self, first⟩
    · obtain ⟨m, member, hit⟩ := inductionHypothesis later
      exact ⟨m, List.mem_cons_of_mem _ member, hit⟩

theorem le_of_matchPrefixIn {t : String} {members : List Dictionary} {y : Entry}
    (found : matchPrefixIn t members = some y) :
    ∀ m ∈ members, ∀ z ∈ m.matchPrefix t, z.keyLength ≤ y.keyLength := by
  induction members generalizing y with
  | nil => cases found
  | cons d rest inductionHypothesis =>
    rw [matchPrefixIn] at found
    obtain ⟨-, pastFirst, pastRest⟩ := longer_eq_some found
    intro m member z hit
    rcases List.mem_cons.mp member with rfl | later
    · exact pastFirst z hit
    -- a later member's hit is bounded by the others' hit, which `y` outgrows
    · cases others : matchPrefixIn t rest with
      | none =>
        rw [(matchPrefixIn_eq_none_iff_members t rest).mp others m later] at hit
        cases hit
      | some y' =>
        exact Nat.le_trans (inductionHypothesis others m later z hit) (pastRest y' others)

/-- The hit among dictionaries is a member's hit of greatest key length, the earliest member's
    when several are as long. -/
theorem matchPrefixIn_eq_some_iff (t : String) (members : List Dictionary) (e : Entry) :
    matchPrefixIn t members = some e ↔
      ∃ before d after, members = before ++ d :: after ∧ d.matchPrefix t = some e ∧
        (∀ m ∈ before, ∀ x ∈ m.matchPrefix t, x.keyLength < e.keyLength) ∧
        ∀ m ∈ after, ∀ x ∈ m.matchPrefix t, x.keyLength ≤ e.keyLength := by
  induction members generalizing e with
  | nil => simp [matchPrefixIn]
  | cons d rest inductionHypothesis =>
    rw [matchPrefixIn]
    constructor
    · intro found
      cases first : matchPrefix t d with
      -- the first member finds nothing: the hit is the others', with the first put before
      | none =>
        rw [first] at found
        obtain ⟨before, d', after, split, hit, earlier, later⟩ :=
          (inductionHypothesis e).mp found
        refine ⟨d :: before, d', after, by rw [split, List.cons_append], hit, ?_, later⟩
        simpa [first] using earlier
      | some x =>
        cases others : matchPrefixIn t rest with
        | none =>
          simp only [first, others, longer, Option.some.injEq] at found
          subst found
          exact ⟨[], d, rest, rfl, first, by simp, fun m member y held => by
            simp [(matchPrefixIn_eq_none_iff_members t rest).mp others m member] at held⟩
        -- the first member's hit wins unless the others' is strictly longer
        | some y =>
          by_cases shorter : x.keyLength < y.keyLength
          · simp only [first, others, longer, shorter, if_true, Option.some.injEq] at found
            subst found
            obtain ⟨before, d', after, split, hit, earlier, later⟩ :=
              (inductionHypothesis y).mp others
            refine ⟨d :: before, d', after, by rw [split, List.cons_append], hit, ?_, later⟩
            simpa [first, shorter] using earlier
          · simp only [first, others, longer, shorter, if_false, Option.some.injEq] at found
            subst found
            exact ⟨[], d, rest, rfl, first, by simp, fun m member z held =>
              Nat.le_trans (le_of_matchPrefixIn others m member z held)
                (Nat.le_of_not_lt shorter)⟩
    · rintro ⟨before, d', after, split, hit, earlier, later⟩
      cases before with
      -- the first member's hit is `e`, and the others' is no longer
      | nil =>
        obtain ⟨rfl, rfl⟩ := List.cons.inj split
        rw [hit]
        cases others : matchPrefixIn t rest with
        | none => rfl
        | some y =>
          obtain ⟨m, member, hit'⟩ := exists_member_of_matchPrefixIn others
          simp [longer, Nat.not_lt.mpr (later m member y hit')]
      -- the others' hit is `e`, and the first member's is shorter
      | cons b before =>
        obtain ⟨rfl, rest_eq⟩ := List.cons.inj split
        have others : matchPrefixIn t rest = some e :=
          (inductionHypothesis e).mpr ⟨before, d', after, rest_eq, hit,
            fun m member => earlier m (List.mem_cons_of_mem _ member), later⟩
        rw [others]
        cases first : matchPrefix t d with
        | none => rfl
        | some x =>
          have shorter : x.keyLength < e.keyLength := earlier d List.mem_cons_self x first
          simp [longer, shorter]

theorem matchWordIn_eq_findSome? (w : String) (members : List Dictionary) :
    matchWordIn w members = members.findSome? (·.matchWord w) := by
  induction members with
  | nil => rw [matchWordIn, List.findSome?_nil]
  | cons d rest inductionHypothesis =>
    rw [matchWordIn, List.findSome?_cons, inductionHypothesis]
    cases matchWord w d <;> rfl

/-- A group nested to any depth answers its exact lookup with the first member's hit, and its
    longest-prefix lookup with a member hit of greatest key length, the earliest member's on a
    tie. That hit is an entry of the group whose key's bytes begin the text, and no key at any
    depth that begins the text is longer; there is none exactly when no key begins the text.
    An exact hit of a word is the longest-prefix hit of the word, the very same entry. -/
theorem group_lifts_lookups (members : List Dictionary) (w t : String) (e : Entry) :
    (group members).matchWord w = members.findSome? (·.matchWord w) ∧
      ((group members).matchPrefix t = some e ↔
        ∃ before d after, members = before ++ d :: after ∧ d.matchPrefix t = some e ∧
          (∀ m ∈ before, ∀ x ∈ m.matchPrefix t, x.keyLength < e.keyLength) ∧
          ∀ m ∈ after, ∀ x ∈ m.matchPrefix t, x.keyLength ≤ e.keyLength) ∧
      ((group members).matchPrefix t = some e → (group members).LongestHit t e) ∧
      ((group members).matchPrefix t = none ↔
        ∀ x ∈ (group members).allEntries, ¬ BytesBegin x.key t) ∧
      ((group members).matchWord w = some e → (group members).matchPrefix w = some e) := by
  refine ⟨?_, ?_, matchPrefix_longestHit, matchPrefix_eq_none_iff_bytes _ t,
    fun held => (matchPrefix_of_matchWord held).1⟩
  · rw [matchWord, matchWordIn_eq_findSome?]
  · rw [matchPrefix, matchPrefixIn_eq_some_iff]

end Dictionary

end InputMethod
