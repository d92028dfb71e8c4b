import InputMethod.Conversion.Registry

/-! # Sharing engines through the registry

A caller asks the registry for engines by key and keeps the handles it is given: the live
engine under the key, held once more, or else a new engine for the path it names. Letting go of
the last handle of an engine forgets its key. `Caller.perform` runs one call of a caller that
keeps every handle it gets, and `Caller.performAll` a run of them.

The main statement, `Caller.performAll_shares`, says for every run from an empty registry:

* the registry has a key exactly when the caller holds a handle to an engine made for it, all
  such handles are to one engine, and a lookup of the key finds that engine, and nothing when no
  such handle is held;
* asking for a key whose engine is held gives that engine and makes none; asking for one whose
  engine is not held makes a fresh engine for the path asked for; and no call changes an
  engine once made, so an engine keeps the path it was made for;
* the empty configured text stands for `t2s.json`, and an `.ini` configuration whose engine is
  not held is refused, and the refusal changes nothing.

Two invariants carry it. `Registry.Sound`: the entries are the live engines, each under the key
it was made for, no key twice. `Caller.Tracks`: each engine's count of holders is the number of
handles the caller holds to it, so that an engine is live exactly when a handle to it is held.
-/

namespace InputMethod

namespace Registry

/-! ## Arrays -/

theorem getD_modify {α : Type} (a : Array α) (i j : Nat) (f : α → α) (d : α) :
    (a.modify i f).getD j d = if i = j ∧ j < a.size then f (a.getD j d) else a.getD j d := by
  rw [Array.getD_eq_getD_getElem?, Array.getElem?_modify, Array.getD_eq_getD_getElem?]
  by_cases same : i = j
  · subst same
    by_cases inside : i < a.size
    · simp [inside]
    · simp [inside]
  · simp [same]

theorem getD_push {α : Type} (a : Array α) (x : α) (j : Nat) (d : α) :
    (a.push x).getD j d = if j = a.size then x else a.getD j d := by
  rw [Array.getD_eq_getD_getElem?, Array.getElem?_push, Array.getD_eq_getD_getElem?]
  split <;> rfl

theorem lt_size_of_getD_pos {a : Array Nat} {j : Nat} (positive : 0 < a.getD j 0) :
    j < a.size := by
  apply Classical.byContradiction
  intro outside
  rw [Array.getD_eq_getD_getElem?, Array.getElem?_eq_none (Nat.le_of_not_lt outside)] at positive
  exact Nat.lt_irrefl 0 positive

/-! ## The registry's invariant -/

/-- The entries are the live engines, each under the key it was made for, and no key is entered
    twice; engines, keys and counts of holders are indexed alike. -/
structure Sound (r : Registry) : Prop where
  holderSize : r.holders.size = r.engines.size
  keySize : r.keys.size = r.engines.size
  entered : ∀ key id, (key, id) ∈ r.entries ↔ r.isLive id = true ∧ r.keys.getD id "" = key
  distinct : (r.entries.map Prod.fst).Nodup

theorem sound_empty : Sound {} where
  holderSize := rfl
  keySize := rfl
  entered key id := by simp [isLive]
  distinct := List.nodup_nil

theorem find?_isLive {r : Registry} {key : String} {id : Nat} (found : r.find? key = some id) :
    r.isLive id = true := by
  unfold find? at found
  split at found
  · split at found
    · next live =>
      cases found
      exact live
    · cases found
  · cases found

theorem lt_size_of_isLive {r : Registry} {id : Nat} (live : r.isLive id = true) :
    id < r.holders.size :=
  lt_size_of_getD_pos (by simpa [isLive] using live)

theorem lookup_of_mem {entries : List (String × Nat)} (distinct : (entries.map Prod.fst).Nodup)
    {key : String} {id : Nat} (member : (key, id) ∈ entries) : entries.lookup key = some id := by
  induction entries with
  | nil => simp at member
  | cons entry rest inductionHypothesis =>
    obtain ⟨key', id'⟩ := entry
    simp only [List.map_cons, List.nodup_cons, List.mem_map] at distinct
    rw [List.lookup_cons]
    rcases List.mem_cons.mp member with same | later
    · obtain ⟨rfl, rfl⟩ := Prod.mk.inj same
      simp
    · have other : key ≠ key' := fun same => distinct.1 ⟨(key, id), later, same⟩
      simp only [beq_false_of_ne other]
      exact inductionHypothesis distinct.2 later

theorem isLive_iff {r : Registry} {id : Nat} : r.isLive id = true ↔ 0 < r.holders.getD id 0 :=
  decide_eq_true_iff

theorem getD_hold (r : Registry) (id j : Nat) :
    (r.hold id).holders.getD j 0 =
      if id = j ∧ j < r.holders.size then r.holders.getD j 0 + 1 else r.holders.getD j 0 :=
  getD_modify _ _ _ _ _

theorem isLive_hold {r : Registry} {id : Nat} (live : r.isLive id = true) (j : Nat) :
    (r.hold id).isLive j = r.isLive j := by
  have same : 0 < (r.hold id).holders.getD j 0 ↔ 0 < r.holders.getD j 0 := by
    rw [getD_hold]
    split
    · next inside =>
      obtain ⟨rfl, -⟩ := inside
      simp only [isLive, decide_eq_true_eq] at live
      omega
    · rfl
  simp only [isLive, same]

theorem pos_getD_release (r : Registry) (id j : Nat) :
    0 < (r.holders.modify id (· - 1)).getD j 0 ↔
      0 < r.holders.getD j 0 ∧ (j = id → 1 < r.holders.getD id 0) := by
  rw [getD_modify]
  split
  · next inside =>
    obtain ⟨rfl, -⟩ := inside
    omega
  · next outside =>
    constructor
    · intro positive
      refine ⟨positive, fun same => ?_⟩
      subst same
      exact absurd ⟨rfl, lt_size_of_getD_pos positive⟩ outside
    · exact And.left

namespace Sound

variable {r : Registry} (sound : Sound r)
include sound

theorem eq_of_entered {key : String} {a b : Nat} (first : (key, a) ∈ r.entries)
    (second : (key, b) ∈ r.entries) : a = b :=
  Option.some.inj ((lookup_of_mem sound.distinct first).symm.trans
    (lookup_of_mem sound.distinct second))

theorem find?_eq_some_iff {key : String} {id : Nat} :
    r.find? key = some id ↔ r.isLive id = true ∧ r.keys.getD id "" = key := by
  rw [← sound.entered]
  unfold find?
  constructor
  · intro found
    split at found
    · next hit =>
      split at found
      · cases found
        obtain ⟨before, after, split, -⟩ := List.lookup_eq_some_iff.mp hit
        rw [split]
        simp
      · cases found
    · cases found
  · intro member
    have live := ((sound.entered key id).mp member).1
    rw [lookup_of_mem sound.distinct member]
    simp [live]

theorem contains_iff {key : String} :
    r.contains key = true ↔ ∃ id, r.isLive id = true ∧ r.keys.getD id "" = key := by
  unfold contains
  constructor
  · intro present
    obtain ⟨id, hit⟩ := Option.isSome_iff_exists.mp present
    obtain ⟨before, after, split, -⟩ := List.lookup_eq_some_iff.mp hit
    exact ⟨id, (sound.entered key id).mp (by rw [split]; simp)⟩
  · rintro ⟨id, held⟩
    rw [lookup_of_mem sound.distinct ((sound.entered key id).mpr held)]
    rfl

theorem hold {id : Nat} (live : r.isLive id = true) : Sound (r.hold id) where
  holderSize := by simp [Registry.hold, sound.holderSize]
  keySize := sound.keySize
  entered key id' := by
    rw [show (r.hold id).entries = r.entries from rfl, sound.entered, isLive_hold live]
    rfl
  distinct := sound.distinct

theorem not_entered {key : String} (absent : r.find? key = none) (id : Nat) :
    (key, id) ∉ r.entries := fun member =>
  absurd ((sound.find?_eq_some_iff).mpr ((sound.entered key id).mp member)) (by simp [absent])

theorem acquire_of_absent {key path : String} (absent : r.find? key = none) :
    r.acquire key path = (r.engines.size,
      { r with engines := r.engines.push (Engine.create path (r.seeds r.engines.size)),
               keys := r.keys.push key, holders := r.holders.push 1,
               entries := r.entries ++ [(key, r.engines.size)] }) := by
  have unfiltered : r.entries.filter (·.1 != key) = r.entries :=
    List.filter_eq_self.mpr fun entry member => by
      obtain ⟨key', id⟩ := entry
      have other : key' ≠ key := fun same => sound.not_entered absent id (same ▸ member)
      simpa using other
  rw [acquire, absent]
  dsimp only
  rw [unfiltered]

/-- Making a fresh engine for a key that finds none keeps the invariant. -/
theorem fresh {key path : String} (absent : r.find? key = none) :
    Sound (r.acquire key path).2 := by
  rw [sound.acquire_of_absent absent]
  refine ⟨by simp [sound.holderSize], by simp [sound.keySize], ?_, ?_⟩
  · intro key' id
    simp only [isLive, getD_push, sound.holderSize, sound.keySize, List.mem_append,
      List.mem_singleton, Prod.mk.injEq]
    by_cases new : id = r.engines.size
    -- the fresh engine is live and entered under its key, and was not entered before
    · subst new
      have notBefore : (key', r.engines.size) ∉ r.entries := fun member => by
        have live := lt_size_of_isLive ((sound.entered key' _).mp member).1
        rw [sound.holderSize] at live
        exact Nat.lt_irrefl _ live
      simp [notBefore, eq_comm]
    · simp [new, sound.entered, isLive]
  · rw [List.map_append, List.nodup_append]
    refine ⟨sound.distinct, by simp, ?_⟩
    simp only [List.map_cons, List.map_nil, List.mem_singleton, List.mem_map]
    rintro _ ⟨⟨key', id⟩, member, rfl⟩ _ rfl same
    exact sound.not_entered absent id (same ▸ member)

theorem release_eq {id : Nat} (live : r.isLive id = true) :
    r.release id =
      { r with
        holders := r.holders.modify id (· - 1)
        entries := if 1 < r.holders.getD id 0 then r.entries
          else r.entries.filter (·.1 != r.keys.getD id "") } := by
  have stillLive : ({ r with holders := r.holders.modify id (· - 1) } : Registry).isLive id =
      decide (1 < r.holders.getD id 0) := by
    unfold isLive
    refine decide_eq_decide.mpr ?_
    rw [pos_getD_release]
    simp only [isLive, decide_eq_true_eq] at live
    exact ⟨fun both => both.2 rfl, fun more => ⟨live, fun _ => more⟩⟩
  have found : r.entries.lookup (r.keys.getD id "") = some id :=
    lookup_of_mem sound.distinct ((sound.entered _ id).mpr ⟨live, rfl⟩)
  unfold release
  dsimp only
  rw [stillLive]
  by_cases more : 1 < r.holders.getD id 0
  · rw [decide_eq_true more, if_pos rfl, if_pos more]
  -- the last hold is gone: the key's entry is this very engine, now dead
  · rw [decide_eq_false more, if_neg Bool.false_ne_true, found]
    dsimp only
    rw [stillLive, decide_eq_false more, if_neg Bool.false_ne_true, if_neg more]

theorem release {id : Nat} (live : r.isLive id = true) : Sound (r.release id) := by
  rw [sound.release_eq live]
  refine ⟨by rw [Array.size_modify]; exact sound.holderSize, sound.keySize, fun key j => ?_, ?_⟩
  · simp only [isLive_iff]
    rw [pos_getD_release]
    by_cases more : 1 < r.holders.getD id 0
    · rw [if_pos more, sound.entered, isLive_iff]
      exact ⟨fun ⟨positive, keyed⟩ => ⟨⟨positive, fun _ => more⟩, keyed⟩,
        fun ⟨⟨positive, _⟩, keyed⟩ => ⟨positive, keyed⟩⟩
    -- the last hold is gone: the engine's key goes, and no other live engine had that key
    · rw [if_neg more, List.mem_filter, sound.entered, isLive_iff, bne_iff_ne, ne_eq]
      constructor
      · rintro ⟨⟨positive, keyed⟩, otherKey⟩
        refine ⟨⟨positive, fun same => ?_⟩, keyed⟩
        subst same
        exact absurd keyed.symm otherKey
      · rintro ⟨⟨positive, notLast⟩, keyed⟩
        refine ⟨⟨positive, keyed⟩, fun sameKey => ?_⟩
        have same : j = id := sound.eq_of_entered
          ((sound.entered key j).mpr ⟨isLive_iff.mpr positive, keyed⟩)
          ((sound.entered key id).mpr ⟨live, sameKey.symm⟩)
        exact more (notLast same)
  · show (List.map Prod.fst (if 1 < r.holders.getD id 0 then r.entries
      else r.entries.filter (·.1 != r.keys.getD id ""))).Nodup
    split
    · exact sound.distinct
    · exact (List.filter_sublist.map Prod.fst).nodup sound.distinct

theorem acquire (key path : String) : Sound (r.acquire key path).2 := by
  cases found : r.find? key with
  | none => exact sound.fresh found
  | some id =>
    rw [Registry.acquire, found]
    exact sound.hold ((sound.find?_eq_some_iff).mp found).1

end Sound

/-! ## Counting holders and keeping engines -/

def Takes (r : Registry) (id : Nat) (r' : Registry) : Prop :=
  ∀ j, r'.holders.getD j 0 = r.holders.getD j 0 + if j = id then 1 else 0

/-- Every engine of `r` is in `r'` as it was. -/
def Keeps (r r' : Registry) : Prop :=
  ∀ (id : Nat) (e : Engine), r.engines[id]? = some e → r'.engines[id]? = some e

theorem takes_hold {r : Registry} {id : Nat} (live : r.isLive id = true) :
    Takes r id (r.hold id) := by
  intro j
  rw [getD_hold]
  by_cases same : id = j
  · subst same
    simp [lt_size_of_isLive live]
  · simp [same, Ne.symm same]

theorem keeps_hold (r : Registry) (id : Nat) : Keeps r (r.hold id) := fun _ _ found => found

theorem keeps_release (r : Registry) (id : Nat) : Keeps r (r.release id) := by
  intro j e found
  unfold release
  dsimp only
  split
  · exact found
  · split
    · split <;> exact found
    · exact found

theorem Sound.takes_acquire {r : Registry} (sound : r.Sound) (key path : String) :
    Takes r (r.acquire key path).1 (r.acquire key path).2 := by
  cases found : r.find? key with
  | none =>
    rw [sound.acquire_of_absent found]
    intro j
    simp only [getD_push, ← sound.holderSize]
    by_cases new : j = r.holders.size
    · subst new
      rw [if_pos rfl, if_pos rfl, Array.getD_eq_getD_getElem?,
        Array.getElem?_eq_none (Nat.le_refl _)]
      rfl
    · rw [if_neg new, if_neg new, Nat.add_zero]
  | some id =>
    rw [Registry.acquire, found]
    exact takes_hold ((sound.find?_eq_some_iff).mp found).1

theorem keeps_acquire (r : Registry) (key path : String) : Keeps r (r.acquire key path).2 := by
  intro j e found
  unfold acquire
  split
  · exact found
  · rw [Array.getElem?_push, if_neg]
    · exact found
    · rintro rfl
      simp at found

theorem require_eq_ok {r r' : Registry} {fs : Files} {config : String} {dirs : DataDirs}
    {id : Nat} (required : r.require fs config dirs = .ok (id, r')) :
    (r.isLive id = true ∧ r' = r.hold id) ∨ ∃ key path, (id, r') = r.acquire key path := by
  unfold require at required
  dsimp only at required
  generalize (if config.isEmpty then defaultConversionConfig else config) = key at required
  cases found : r.find? key with
  | some held =>
    rw [found] at required
    cases required
    exact .inl ⟨find?_isLive found, rfl⟩
  | none =>
    rw [found] at required
    dsimp only at required
    by_cases ini : (Path.extension? key == some "ini") = true
    · rw [if_pos ini] at required
      cases required
    · rw [if_neg ini] at required
      exact .inr ⟨key, _, (Except.ok.inj required).symm⟩

/-! ## A caller that keeps its handles -/

/-- A call on the registry. -/
inductive Call where
  | getOrCreate (key path : String)
  /-- The live engine under `key`, when there is one. -/
  | get (key : String)
  /-- The engine for a configured text, looked up in the data directories as the files are. -/
  | require (fs : Files) (config : String) (dirs : DataDirs)
  | share (handle : Nat)
  | drop (handle : Nat)

/-- A registry and the handles its caller was given, in order: the engine each is to and
    whether the caller still holds it. -/
structure Caller where
  registry : Registry := {}
  handles : List (Nat × Bool) := []

namespace Caller

def keep (h : Caller) (id : Nat) (r : Registry) : Caller :=
  { registry := r, handles := h.handles ++ [(id, true)] }

/-- One call by a caller that keeps every handle it is given. A refused request, a lookup that
    finds nothing and a handle not held change nothing. -/
def perform (h : Caller) : Call → Caller
  | .getOrCreate key path =>
    let (id, r) := h.registry.acquire key path
    h.keep id r
  | .get key =>
    match h.registry.find? key with
    | some id => h.keep id (h.registry.hold id)
    | none => h
  | .require fs config dirs =>
    match h.registry.require fs config dirs with
    | .ok (id, r) => h.keep id r
    | .error _ => h
  | .share handle =>
    match h.handles[handle]? with
    | some (id, true) => h.keep id (h.registry.hold id)
    | _ => h
  | .drop handle =>
    match h.handles[handle]? with
    | some (id, true) =>
      { registry := h.registry.release id, handles := h.handles.set handle (id, false) }
    | _ => h

/-- Calls one after another. -/
def performAll (h : Caller) : List Call → Caller
  | [] => h
  | c :: rest => (h.perform c).performAll rest

def HoldsFor (h : Caller) (key : String) (id : Nat) : Prop :=
  (id, true) ∈ h.handles ∧ h.registry.keys.getD id "" = key

/-- The registry keeps its invariant, and each engine's count of holders is the number of
    handles to it that the caller holds. -/
structure Tracks (h : Caller) : Prop where
  sound : h.registry.Sound
  counts : ∀ id, h.registry.holders.getD id 0 = h.handles.count (id, true)

theorem tracks_empty : Tracks {} where
  sound := Registry.sound_empty
  counts id := by simp

namespace Tracks

variable {h : Caller} (tracks : Tracks h)
include tracks

theorem isLive_iff {id : Nat} : h.registry.isLive id = true ↔ (id, true) ∈ h.handles := by
  rw [Registry.isLive_iff, tracks.counts, List.count_pos_iff]

theorem entered_iff {key : String} {id : Nat} :
    (key, id) ∈ h.registry.entries ↔ h.HoldsFor key id := by
  rw [tracks.sound.entered, tracks.isLive_iff]
  rfl

theorem keep {id : Nat} {r : Registry} (takes : Registry.Takes h.registry id r) (sound : r.Sound) :
    Tracks (h.keep id r) where
  sound := sound
  counts j := by
    show r.holders.getD j 0 = (h.handles ++ [(id, true)]).count (j, true)
    rw [takes j, tracks.counts, List.count_append, List.count_singleton]
    by_cases same : j = id
    · subst same
      simp
    · simp [same, Ne.symm same]

theorem keep_hold {id : Nat} (live : h.registry.isLive id = true) :
    Tracks (h.keep id (h.registry.hold id)) :=
  tracks.keep (Registry.takes_hold live) (tracks.sound.hold live)

theorem keep_acquire {key path : String} {id : Nat} {r : Registry}
    (acquired : (id, r) = h.registry.acquire key path) : Tracks (h.keep id r) := by
  have takes := tracks.sound.takes_acquire key path
  have sound := tracks.sound.acquire key path
  rw [← acquired] at takes sound
  exact tracks.keep takes sound

theorem drop {i id : Nat} (held : h.handles[i]? = some (id, true)) :
    Tracks { registry := h.registry.release id, handles := h.handles.set i (id, false) } := by
  have member : (id, true) ∈ h.handles := List.mem_of_getElem? held
  have live := tracks.isLive_iff.mpr member
  obtain ⟨inside, atHandle⟩ := List.getElem?_eq_some_iff.mp held
  refine ⟨tracks.sound.release live, fun j => ?_⟩
  rw [tracks.sound.release_eq live]
  show (h.registry.holders.modify id (· - 1)).getD j 0 = _
  rw [Registry.getD_modify, List.count_set inside, atHandle, tracks.counts]
  by_cases same : id = j
  · subst same
    simp [Registry.lt_size_of_isLive live]
  · simp [same]

/-- Every call keeps both invariants. -/
theorem perform (c : Call) : Tracks (h.perform c) := by
  cases c with
  | getOrCreate key path => exact tracks.keep_acquire rfl
  | get key =>
    rw [Caller.perform]
    split
    · next found => exact tracks.keep_hold (Registry.find?_isLive found)
    · exact tracks
  | require fs config dirs =>
    rw [Caller.perform]
    split
    · next id r required =>
      rcases Registry.require_eq_ok required with ⟨live, rfl⟩ | ⟨key, path, acquired⟩
      · exact tracks.keep_hold live
      · exact tracks.keep_acquire acquired
    · exact tracks
  | share handle =>
    rw [Caller.perform]
    split
    -- a handle still held is to a live engine
    · next id held => exact tracks.keep_hold (tracks.isLive_iff.mpr (List.mem_of_getElem? held))
    · exact tracks
  | drop handle =>
    rw [Caller.perform]
    split
    · next id held => exact tracks.drop held
    · exact tracks

end Tracks

/-- Every run keeps both invariants. -/
theorem Tracks.performAll {h : Caller} (tracks : Tracks h) :
    ∀ calls : List Call, Tracks (h.performAll calls)
  | [] => tracks
  | c :: rest => (tracks.perform c).performAll rest

/-! ## What a caller sees -/

namespace Tracks

variable {h : Caller} (tracks : Tracks h)
include tracks

theorem find?_eq_some_iff {key : String} {id : Nat} :
    h.registry.find? key = some id ↔ h.HoldsFor key id := by
  rw [tracks.sound.find?_eq_some_iff, tracks.isLive_iff]
  rfl

theorem contains_iff {key : String} :
    h.registry.contains key = true ↔ ∃ id, h.HoldsFor key id := by
  rw [tracks.sound.contains_iff]
  simp only [tracks.isLive_iff]
  rfl

theorem eq_of_holdsFor {key : String} {a b : Nat} (first : h.HoldsFor key a)
    (second : h.HoldsFor key b) : a = b :=
  tracks.sound.eq_of_entered (tracks.entered_iff.mpr first) (tracks.entered_iff.mpr second)

theorem acquire_of_holdsFor {key path : String} {id : Nat} (held : h.HoldsFor key id) :
    h.registry.acquire key path = (id, h.registry.hold id) := by
  rw [Registry.acquire, tracks.find?_eq_some_iff.mpr held]

theorem acquire_of_free {key path : String} (free : ∀ id, ¬ h.HoldsFor key id) :
    (h.registry.acquire key path).1 = h.registry.engines.size ∧
      ∃ e, (h.registry.acquire key path).2.engines[h.registry.engines.size]? = some e ∧
        e.configPath = path ∧ e.converter = none := by
  have absent : h.registry.find? key = none :=
    Option.eq_none_iff_forall_ne_some.mpr fun id found =>
      free id (tracks.find?_eq_some_iff.mp found)
  rw [tracks.sound.acquire_of_absent absent]
  exact ⟨rfl, Engine.create path (h.registry.seeds h.registry.engines.size), by simp, rfl, rfl⟩

end Tracks

theorem keeps_perform (h : Caller) (c : Call) :
    Registry.Keeps h.registry (h.perform c).registry := by
  have unchanged : Registry.Keeps h.registry h.registry := fun _ _ found => found
  cases c with
  | getOrCreate key path => exact Registry.keeps_acquire h.registry key path
  | get key =>
    rw [perform]
    split
    · exact Registry.keeps_hold _ _
    · exact unchanged
  | require fs config dirs =>
    rw [perform]
    split
    · next id r required =>
      rcases Registry.require_eq_ok required with ⟨-, rfl⟩ | ⟨key, path, acquired⟩
      · exact Registry.keeps_hold _ _
      · have keeps := Registry.keeps_acquire h.registry key path
        rw [← acquired] at keeps
        exact keeps
    · exact unchanged
  | share handle =>
    rw [perform]
    split
    · exact Registry.keeps_hold _ _
    · exact unchanged
  | drop handle =>
    rw [perform]
    split
    · exact Registry.keeps_release _ _
    · exact unchanged

theorem require_empty (r : Registry) (fs : Files) (dirs : DataDirs) :
    r.require fs "" dirs = r.require fs defaultConversionConfig dirs := by
  simp [Registry.require, defaultConversionConfig]

theorem require_legacy (h : Caller) (fs : Files) (config : String) (dirs : DataDirs)
    (absent : h.registry.find? (if config.isEmpty then defaultConversionConfig else config) = none)
    (ini : Path.extension? (if config.isEmpty then defaultConversionConfig else config) =
      some "ini") :
    h.registry.require fs config dirs =
        .error (.legacyConfig (if config.isEmpty then defaultConversionConfig else config)) ∧
      h.perform (.require fs config dirs) = h := by
  have refused : h.registry.require fs config dirs =
      .error (.legacyConfig (if config.isEmpty then defaultConversionConfig else config)) := by
    unfold Registry.require
    dsimp only
    rw [absent, ini]
    simp only [beq_self_eq_true, if_true]
  refine ⟨refused, ?_⟩
  rw [perform, refused]

/-- For every run of calls from an empty registry, in which the caller keeps the handles it is
    given and lets go of them as it likes: the registry has a key exactly when the caller holds
    a handle to an engine made for it; all such handles are to one engine, and a lookup of the
    key finds it, and nothing when no such handle is held. Asking for the key again gives that
    engine, held once more, and makes none; once no handle is held, asking makes a fresh engine,
    with nothing loaded, for the path asked for; no call changes an engine once made. The empty
    configured text stands for `t2s.json`, and an `.ini` configuration whose engine is not held
    is refused and changes nothing. -/
theorem performAll_shares (calls : List Call) (key path : String) :
    let h := ({} : Caller).performAll calls
    (h.registry.contains key = true ↔ ∃ id, h.HoldsFor key id) ∧
      (∀ id, h.registry.find? key = some id ↔ h.HoldsFor key id) ∧
      (∀ a b, h.HoldsFor key a → h.HoldsFor key b → a = b) ∧
      (∀ id, h.HoldsFor key id → h.registry.acquire key path = (id, h.registry.hold id)) ∧
      ((∀ id, ¬ h.HoldsFor key id) →
        (h.registry.acquire key path).1 = h.registry.engines.size ∧
          ∃ e, (h.registry.acquire key path).2.engines[h.registry.engines.size]? = some e ∧
            e.configPath = path ∧ e.converter = none) ∧
      (∀ c, Registry.Keeps h.registry (h.perform c).registry) ∧
      (∀ fs dirs, h.registry.require fs "" dirs = h.registry.require fs defaultConversionConfig dirs) ∧
      (∀ fs config dirs,
        let k := if config.isEmpty then defaultConversionConfig else config
        (∀ id, ¬ h.HoldsFor k id) → Path.extension? k = some "ini" →
          h.registry.require fs config dirs = .error (.legacyConfig k) ∧
            h.perform (.require fs config dirs) = h) := by
  intro h
  have tracks : Tracks h := tracks_empty.performAll calls
  refine ⟨tracks.contains_iff, fun id => tracks.find?_eq_some_iff,
    fun a b => tracks.eq_of_holdsFor, fun id => tracks.acquire_of_holdsFor,
    tracks.acquire_of_free, keeps_perform h, require_empty h.registry, ?_⟩
  intro fs config dirs k free ini
  have absent : h.registry.find? k = none :=
    Option.eq_none_iff_forall_ne_some.mpr fun id found =>
      free id (tracks.find?_eq_some_iff.mp found)
  exact require_legacy h fs config dirs absent ini

end Caller

end Registry

end InputMethod
