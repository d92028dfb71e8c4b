import InputMethod.Grammar.Bigram

/-! # Lists keyed by text

A bigram model keeps its heads, its totals and each head's followers, and a context its
options, in lists of entries keyed by text. Each is set the same way: the entries of the key are
updated in place, or, when there is none, a new entry is added at the end (`Bigram.Model.setAt`
for pairs). Looking a key up afterwards finds the updated or the new entry for that key and what
was there before for every other key (`find?_update`), and the keys grow only by a new key
(`keys_update`).
-/

namespace InputMethod

namespace Keyed

variable {β : Type} (key : β → String) {k : String} {g : β → β} {y : β}

def update (k : String) (g : β → β) (y : β) (xs : List β) : List β :=
  if xs.any (key · == k) then xs.map (fun x => if key x == k then g x else x) else xs ++ [y]

/-- After an update of key `k`, a lookup of `k` finds the first entry updated, or the one
    added, and a lookup of any other key finds what it found before. -/
theorem find?_update (keeps : ∀ x, key x = k → key (g x) = k) (keyed : key y = k)
    (xs : List β) (k' : String) :
    (update key k g y xs).find? (key · == k') =
      if k = k' then some (((xs.find? (key · == k)).map g).getD y) else xs.find? (key · == k') := by
  unfold update
  split
  · next present =>
    -- the update keeps every key, so the lookup meets the entries it met before
    have sameKeys : ((key · == k') ∘ fun x => if key x == k then g x else x) = (key · == k') := by
      funext x
      by_cases own : key x = k
      · simp [own, keeps x own]
      · simp [own]
    rw [List.find?_map, sameKeys]
    by_cases same : k = k'
    · subst same
      cases hit : xs.find? (key · == k) with
      | none =>
        obtain ⟨x, member, own⟩ := List.any_eq_true.mp present
        exact absurd own (by simpa using List.find?_eq_none.mp hit x member)
      | some z =>
        have zKey := List.find?_some hit
        simp only [beq_iff_eq] at zKey
        simp [zKey]
    · cases hit : xs.find? (key · == k') with
      | none => simp [same]
      | some z =>
        have zKey : key z = k' := by simpa using List.find?_some hit
        have other : ¬ key z = k := fun eq => same (eq.symm.trans zKey)
        simp [same, other]
  · next absent =>
    rw [List.find?_append]
    by_cases same : k = k'
    · subst same
      have none : xs.find? (key · == k) = none :=
        List.find?_eq_none.mpr fun x member own => absent (List.any_eq_true.mpr ⟨x, member, own⟩)
      simp [none, keyed]
    · have missed : (key y == k') = false := by simpa [keyed] using same
      cases xs.find? (key · == k') <;> simp [same, missed]

/-- An update of key `k` keeps the keys, adding `k` at the end when it is new. -/
theorem keys_update (keeps : ∀ x, key x = k → key (g x) = k) (keyed : key y = k)
    (xs : List β) :
    (update key k g y xs).map key =
      if xs.any (key · == k) then xs.map key else xs.map key ++ [k] := by
  unfold update
  split
  · rw [List.map_map]
    congr 1
    funext x
    by_cases own : key x = k
    · simp [own, keeps x own]
    · simp [own]
  · simp [keyed]

end Keyed

namespace Bigram.Model

variable {α : Type}

theorem setAt_eq_update (k : String) (f : Option α → α) (xs : List (String × α)) :
    setAt k f xs = Keyed.update Prod.fst k (fun p => (k, f (some p.2))) (k, f none) xs := rfl

theorem find?_setAt (k k' : String) (f : Option α → α) (xs : List (String × α)) :
    ((setAt k f xs).find? (·.1 == k')).map Prod.snd =
      if k = k' then some (f ((xs.find? (·.1 == k)).map Prod.snd))
      else (xs.find? (·.1 == k')).map Prod.snd := by
  rw [setAt_eq_update, Keyed.find?_update Prod.fst (k := k) (g := fun p => (k, f (some p.2)))
    (y := (k, f none)) (fun _ _ => rfl) rfl]
  by_cases same : k = k'
  · cases xs.find? (·.1 == k) <;> simp [same]
  · simp [same]

theorem keys_setAt (k : String) (f : Option α → α) (xs : List (String × α)) :
    (setAt k f xs).map Prod.fst = if xs.any (·.1 == k) then xs.map Prod.fst else xs.map Prod.fst ++ [k] :=
  Keyed.keys_update Prod.fst (k := k) (g := fun p => (k, f (some p.2))) (y := (k, f none))
    (fun _ _ => rfl) rfl xs

end Bigram.Model

end InputMethod
