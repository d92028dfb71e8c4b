import Mathlib.Data.List.Forall2
import Mathlib.Logic.Relation
import InputMethod.Proofs.Stream.Calls

/-! # Unions play the streams pushed onto them

A union starts empty and takes the streams pushed onto it while it has not been drained, each
only if it is not exhausted; consumers look, step and draw through it. This module follows a
union through every run of calls (`union_plays_pushed`):

* a push is taken exactly when the union is not drained and the stream is not exhausted, and
  the union is drained exactly when it has taken something and holds nothing;
* no stream the union holds is ever exhausted;
* the streams it took have been consumed, by the consumers' own looks, steps and draws, into
  streams that are played to the end, followed by the ones it still holds; it yields what these
  yield one after another (`takeAll`) and is exhausted exactly when all of them are;
* in a run without steps, the candidates drawn and those still to come are the candidates of
  the streams taken, one after another, each from where it stood when it was pushed.

The proof carries two invariants of a union's state along the run, `Holds` and `DrawsFrom`,
with a step lemma for each kind of call. A draw may retire several streams at once, which
`Holds.pullParts` handles by induction on the held streams.
-/

namespace InputMethod

namespace Stream

/-! ## Playing streams one after another -/

/-- Up to `n` candidates of streams played one after another, each to its end before the
    next. -/
def takeAll : Nat → List Stream → List Candidate
  | _, [] => []
  | n, s :: rest => (s.take n).1 ++ takeAll (n - (s.take n).1.length) rest

@[simp] theorem takeAll_nil (n : Nat) : takeAll n [] = [] := rfl

theorem take_union (n : Nat) (parts : List Stream) (drained : Bool) :
    (take n (union parts drained)).1 = takeAll n parts := by
  induction parts generalizing n with
  | nil => exact take_union_nil n drained
  | cons part parts inductionHypothesis =>
    rw [take_union_cons n part parts drained drained, inductionHypothesis, takeAll]

theorem takeAll_append (n : Nat) (first second : List Stream) :
    takeAll n (first ++ second) =
      takeAll n first ++ takeAll (n - (takeAll n first).length) second := by
  induction first generalizing n with
  | nil => simp
  | cons s first inductionHypothesis =>
    simp only [List.cons_append, takeAll, inductionHypothesis, List.append_assoc,
      List.length_append, Nat.sub_sub]

theorem takeAll_exhausted_append {done : List Stream} (ended : ∀ d ∈ done, d.exhausted = true)
    (n : Nat) (rest : List Stream) : takeAll n (done ++ rest) = takeAll n rest := by
  induction done with
  | nil => rfl
  | cons d done inductionHypothesis =>
    simp only [List.mem_cons, forall_eq_or_imp] at ended
    simp [takeAll, take_of_exhausted ended.1, inductionHypothesis ended.2]

@[simp] theorem takeAll_zero (parts : List Stream) : takeAll 0 parts = [] := by
  induction parts with
  | nil => rfl
  | cons s parts inductionHypothesis => simp [takeAll, inductionHypothesis]

theorem takeAll_peek (n : Nat) (part : Stream) (rest : List Stream) :
    takeAll n (part.peek.2 :: rest) = takeAll n (part :: rest) := by
  simp only [takeAll, take_peek]

/-! ## What a consumer does to a stream -/

def ConsumerStep (s s' : Stream) : Prop := s' = s.peek.2 ∨ s' = s.next.2 ∨ s' = s.pull.2

def Consumed : Stream → Stream → Prop := Relation.ReflTransGen ConsumerStep

theorem Consumed.refl (s : Stream) : Consumed s s := Relation.ReflTransGen.refl

theorem Consumed.step {s s' s'' : Stream} (consumed : Consumed s s')
    (step : ConsumerStep s' s'') : Consumed s s'' :=
  Relation.ReflTransGen.tail consumed step

/-! ## What a union holds -/

def Call.taken : Call × Reply → List Stream
  | (.push t, .flag true) => [t]
  | _ => []

def Call.drawn : Call × Reply → List Candidate
  | (.draw, .found c) => c.toList
  | _ => []

def takenIn (calls : List Call) (replies : List Reply) : List Stream :=
  (calls.zip replies).flatMap Call.taken

def drawnIn (calls : List Call) (replies : List Reply) : List Candidate :=
  (calls.zip replies).flatMap Call.drawn

theorem takenIn_cons (c : Call) (calls : List Call) (reply : Reply) (replies : List Reply) :
    takenIn (c :: calls) (reply :: replies) = Call.taken (c, reply) ++ takenIn calls replies :=
  rfl

theorem drawnIn_cons (c : Call) (calls : List Call) (reply : Reply) (replies : List Reply) :
    drawnIn (c :: calls) (reply :: replies) = Call.drawn (c, reply) ++ drawnIn calls replies :=
  rfl

theorem perform_push_union (t : Stream) (parts : List Stream) (drained : Bool) :
    (Call.push t).perform (.union parts drained) =
      if !drained && !t.exhausted then (.flag true, .union (parts ++ [t]) false)
      else (.flag false, .union parts drained) := by
  cases drained <;> cases ended : t.exhausted <;> simp [Call.perform, Stream.push, ended]

/-- What a union with streams `parts` holds after it has taken `accepted`: none of the streams
    it holds is exhausted; the streams it took are consumers' earlier states of streams played
    to exhaustion (`done`), followed by the streams it holds; and it is drained exactly when
    it has taken something and holds nothing. -/
structure Holds (accepted parts : List Stream) (drained : Bool) : Prop where
  live : ∀ p ∈ parts, p.exhausted = false
  drained_iff : drained = true ↔ accepted ≠ [] ∧ parts = []
  played : ∃ finished done pending, accepted = finished ++ pending ∧
    List.Forall₂ Consumed finished done ∧ (∀ d ∈ done, d.exhausted = true) ∧
    List.Forall₂ Consumed pending parts

theorem holds_empty : Holds [] [] false :=
  ⟨by simp, by simp, [], [], [], rfl, .nil, by simp, .nil⟩

theorem Holds.of_cons {accepted rest : List Stream} {part : Stream} {drained : Bool}
    (holds : Holds accepted (part :: rest) drained) : accepted ≠ [] ∧ drained = false := by
  obtain ⟨finished, done, pending, split, -, -, held⟩ := holds.played
  obtain ⟨first, pendingRest, -, -, rfl⟩ := List.forall₂_cons_right_iff.mp held
  refine ⟨by simp [split], ?_⟩
  simpa using holds.drained_iff

/-- A taken push adds the stream after those the union holds. -/
theorem Holds.push {accepted parts : List Stream} {t : Stream}
    (holds : Holds accepted parts false) (live : t.exhausted = false) :
    Holds (accepted ++ [t]) (parts ++ [t]) false := by
  obtain ⟨finished, done, pending, split, consumed, ended, held⟩ := holds.played
  refine ⟨fun p member => ?_, by simp, finished, done, pending ++ [t], by simp [split], consumed,
    ended, List.rel_append held (.cons (Consumed.refl t) .nil)⟩
  rcases List.mem_append.mp member with old | new
  · exact holds.live p old
  · rw [List.mem_singleton.mp new]
    exact live

theorem Holds.advance {accepted rest : List Stream} {part part' : Stream} {drained : Bool}
    (holds : Holds accepted (part :: rest) drained) (step : ConsumerStep part part')
    (live : part'.exhausted = false) : Holds accepted (part' :: rest) drained := by
  obtain ⟨finished, done, pending, split, consumed, ended, held⟩ := holds.played
  obtain ⟨first, pendingRest, firstConsumed, restHeld, rfl⟩ :=
    List.forall₂_cons_right_iff.mp held
  refine ⟨?_, ?_, finished, done, first :: pendingRest, split, consumed, ended,
    .cons (firstConsumed.step step) restHeld⟩
  · simpa [live] using fun p member => holds.live p (List.mem_cons_of_mem part member)
  · simpa using holds.drained_iff

theorem Holds.retire {accepted rest : List Stream} {part part' : Stream} {drained : Bool}
    (holds : Holds accepted (part :: rest) drained) (step : ConsumerStep part part')
    (ended' : part'.exhausted = true) : Holds accepted rest (drained || rest.isEmpty) := by
  obtain ⟨taken, notDrained⟩ := holds.of_cons
  obtain ⟨finished, done, pending, split, consumed, ended, held⟩ := holds.played
  obtain ⟨first, pendingRest, firstConsumed, restHeld, rfl⟩ :=
    List.forall₂_cons_right_iff.mp held
  refine ⟨fun p member => holds.live p (List.mem_cons_of_mem part member), ?_,
    finished ++ [first], done ++ [part'], pendingRest, by simp [split],
    List.rel_append consumed (.cons (firstConsumed.step step) .nil), fun d member => ?_, restHeld⟩
  -- the union was not drained, so it is drained now exactly when nothing is left
  · cases rest <;> simp [notDrained, taken]
  · rcases List.mem_append.mp member with old | new
    · exact ended d old
    · rw [List.mem_singleton.mp new]
      exact ended'

/-- A draw keeps what a union holds: it retires the streams it runs dry, up to the one that
    yields a candidate. -/
theorem Holds.pullParts {accepted parts : List Stream} {drained : Bool}
    (holds : Holds accepted parts drained) :
    Holds accepted (pullParts parts drained).2.1 (pullParts parts drained).2.2 := by
  induction parts generalizing drained with
  | nil => exact holds
  | cons part rest inductionHypothesis =>
    rcases pulled : part.pull with ⟨_ | c, part'⟩
    · have step : ConsumerStep part part' := .inr (.inr (by rw [pulled]))
      simpa [Stream.pullParts, pulled] using
        inductionHypothesis (holds.retire step (exhausted_of_pull_none pulled))
    · have step : ConsumerStep part part' := .inr (.inr (by rw [pulled]))
      by_cases ended : part'.exhausted = true
      · simpa [Stream.pullParts, pulled, ended] using holds.retire step ended
      · have live : part'.exhausted = false := by simpa using ended
        simpa [Stream.pullParts, pulled, live] using holds.advance step live

/-- Every call keeps what a union holds, with the stream a taken push adds. -/
theorem Holds.perform {accepted parts : List Stream} {drained : Bool}
    (holds : Holds accepted parts drained) (c : Call) :
    ∃ parts' drained', (c.perform (.union parts drained)).2 = .union parts' drained' ∧
      Holds (accepted ++ Call.taken (c, (c.perform (.union parts drained)).1)) parts' drained' := by
  cases c with
  | append => exact ⟨parts, drained, rfl, by simpa [Call.perform, Call.taken] using holds⟩
  | push t =>
    rw [perform_push_union]
    split
    · next accepts =>
      obtain ⟨rfl, live⟩ : drained = false ∧ t.exhausted = false := by simpa using accepts
      exact ⟨parts ++ [t], false, rfl, by simpa [Call.taken] using holds.push live⟩
    · exact ⟨parts, drained, rfl, by simpa [Call.taken] using holds⟩
  | peek =>
    cases parts with
    | nil => exact ⟨[], drained, rfl, by simpa [Call.perform, Call.taken] using holds⟩
    | cons part rest =>
      have live : part.peek.2.exhausted = false := by
        simpa using holds.live part (by simp)
      exact ⟨part.peek.2 :: rest, drained, rfl,
        by simpa [Call.taken] using holds.advance (.inl rfl) live⟩
  | next =>
    cases parts with
    | nil => exact ⟨[], drained, rfl, by simpa [Call.perform, Call.taken] using holds⟩
    | cons part rest =>
      have step : ConsumerStep part part.next.2 := .inr (.inl rfl)
      by_cases ended : part.next.2.exhausted = true
      · exact ⟨rest, drained || rest.isEmpty, by simp [Call.perform, Stream.next, ended],
          by simpa [Call.taken] using holds.retire step ended⟩
      · have live : part.next.2.exhausted = false := by simpa using ended
        exact ⟨part.next.2 :: rest, drained, by simp [Call.perform, Stream.next, live],
          by simpa [Call.taken] using holds.advance step live⟩
  | draw =>
    exact ⟨_, _, rfl, by simpa [Call.taken] using holds.pullParts⟩

/-- A run of calls keeps what a union holds, with the streams its taken pushes add. -/
theorem Holds.performAll {accepted parts : List Stream} {drained : Bool}
    (holds : Holds accepted parts drained) (calls : List Call) :
    ∃ parts' drained', (performAll calls (.union parts drained)).2 = .union parts' drained' ∧
      Holds (accepted ++ takenIn calls (performAll calls (.union parts drained)).1)
        parts' drained' := by
  induction calls generalizing accepted parts drained with
  | nil => exact ⟨parts, drained, rfl, by simpa [takenIn] using holds⟩
  | cons c rest inductionHypothesis =>
    obtain ⟨parts₁, drained₁, after, holds₁⟩ := holds.perform c
    obtain ⟨parts', drained', final, holds'⟩ := inductionHypothesis holds₁
    refine ⟨parts', drained', by rw [performAll_cons, after, final], ?_⟩
    rw [performAll_cons, takenIn_cons, after, ← List.append_assoc]
    exact holds'

/-! ## What is drawn from a union -/

/-- The candidates drawn from a union with streams `parts`, followed by what it yields next,
    are the candidates of the streams it took, one after another. -/
def DrawsFrom (accepted : List Stream) (drawn : List Candidate) (parts : List Stream) : Prop :=
  ∀ n, drawn ++ takeAll n parts = takeAll (drawn.length + n) accepted

theorem drawsFrom_empty : DrawsFrom [] [] [] := fun n => by simp

/-- Streams added after both sides are drawn after both. -/
theorem DrawsFrom.append {accepted parts : List Stream} {drawn : List Candidate}
    (draws : DrawsFrom accepted drawn parts) (more : List Stream) :
    DrawsFrom (accepted ++ more) drawn (parts ++ more) := by
  intro n
  rw [takeAll_append, takeAll_append, ← draws n, ← List.append_assoc, List.length_append]
  -- on both sides the added streams are played after as many candidates of the others
  congr 2
  omega

/-- A draw moves the candidate it finds from what the union yields to what was drawn. -/
theorem DrawsFrom.pullParts {accepted parts : List Stream} {drawn : List Candidate}
    {drained : Bool} (draws : DrawsFrom accepted drawn parts) :
    DrawsFrom accepted (drawn ++ (pullParts parts drained).1.toList)
      (pullParts parts drained).2.1 := by
  intro n
  rcases pulled : Stream.pullParts parts drained with ⟨_ | c, parts', drained'⟩
  · -- nothing is left to draw: the union held nothing that yields
    have pulledUnion : (union parts drained).pull = (none, union parts' drained') := by
      rw [pull_union, pulled]
    have empty : ∀ m, takeAll m parts = [] := fun m => by
      cases m with
      | zero => simp
      | succ m => rw [← take_union _ _ drained, take_succ_of_pull_none pulledUnion]
    simpa [pullParts_none pulled, empty] using draws n
  · have pulledUnion : (union parts drained).pull = (some c, union parts' drained') := by
      rw [pull_union, pulled]
    have next : takeAll (n + 1) parts = c :: takeAll n parts' := by
      rw [← take_union _ _ drained, take_succ_of_pull_some pulledUnion, take_union]
    simpa [Nat.add_assoc, Nat.add_comm 1 n, next] using draws (n + 1)

/-- Every call but a step keeps what is drawn from a union, with the stream a taken push adds
    and the candidate a draw finds. -/
theorem DrawsFrom.perform {accepted parts : List Stream} {drawn : List Candidate}
    {drained : Bool} (draws : DrawsFrom accepted drawn parts) (c : Call) (notStep : c ≠ .next) :
    ∃ parts' drained', (c.perform (.union parts drained)).2 = .union parts' drained' ∧
      DrawsFrom (accepted ++ Call.taken (c, (c.perform (.union parts drained)).1))
        (drawn ++ Call.drawn (c, (c.perform (.union parts drained)).1)) parts' := by
  cases c with
  | append =>
    exact ⟨parts, drained, rfl, by simpa [Call.perform, Call.taken, Call.drawn] using draws⟩
  | push t =>
    rw [perform_push_union]
    split
    · exact ⟨parts ++ [t], false, rfl, by simpa [Call.taken, Call.drawn] using draws.append [t]⟩
    · exact ⟨parts, drained, rfl, by simpa [Call.taken, Call.drawn] using draws⟩
  | peek =>
    cases parts with
    | nil => exact ⟨[], drained, rfl, by simpa [Call.perform, Call.taken, Call.drawn] using draws⟩
    | cons part rest =>
      refine ⟨part.peek.2 :: rest, drained, rfl, ?_⟩
      intro n
      simpa [Call.taken, Call.drawn, takeAll_peek] using draws n
  | next => exact absurd rfl notStep
  | draw =>
    exact ⟨_, _, rfl,
      by simpa [Call.perform, pull_union, Call.taken, Call.drawn] using draws.pullParts⟩

/-- A run of calls without steps keeps what is drawn from a union. -/
theorem DrawsFrom.performAll {accepted parts : List Stream} {drawn : List Candidate}
    {drained : Bool} (draws : DrawsFrom accepted drawn parts) (calls : List Call)
    (noStep : ∀ c ∈ calls, c ≠ .next) :
    ∃ parts' drained', (performAll calls (.union parts drained)).2 = .union parts' drained' ∧
      DrawsFrom (accepted ++ takenIn calls (performAll calls (.union parts drained)).1)
        (drawn ++ drawnIn calls (performAll calls (.union parts drained)).1) parts' := by
  induction calls generalizing accepted drawn parts drained with
  | nil => exact ⟨parts, drained, rfl, by simpa [takenIn, drawnIn] using draws⟩
  | cons c rest inductionHypothesis =>
    obtain ⟨parts₁, drained₁, after, draws₁⟩ := draws.perform c (noStep c (by simp))
    obtain ⟨parts', drained', final, draws'⟩ :=
      inductionHypothesis draws₁ (fun c' member => noStep c' (by simp [member]))
    refine ⟨parts', drained', by rw [performAll_cons, after, final], ?_⟩
    rw [performAll_cons, takenIn_cons, drawnIn_cons, after, ← List.append_assoc,
      ← List.append_assoc]
    exact draws'

/-! ## The law of a union -/

theorem exhausted_union_iff {done parts : List Stream} {drained : Bool}
    (ended : ∀ d ∈ done, d.exhausted = true) (live : ∀ p ∈ parts, p.exhausted = false) :
    (union parts drained).exhausted = true ↔ ∀ s ∈ done ++ parts, s.exhausted = true := by
  cases parts with
  | nil => simpa [Stream.exhausted] using ended
  | cons part rest =>
    have holding : (union (part :: rest) drained).exhausted = false := rfl
    have partLive := live part (by simp)
    rw [holding, Bool.false_eq_true, false_iff, not_forall]
    exact ⟨part, by simp [partLive]⟩

/-- A union built empty plays the streams pushed onto it. After every run of calls, a push is
    taken exactly when the union is not drained and the stream is not exhausted, and the union
    is drained exactly when it has taken something and holds nothing. No stream it holds is
    exhausted. The streams it took have been consumed into streams (`current`) of which those
    before the ones it holds are played to the end; it yields what they yield one after another
    and is exhausted exactly when all of them are. In a run without steps, the candidates drawn
    followed by those still to come are the candidates of the streams taken, played one after
    another from where each stood when it was pushed. -/
theorem union_plays_pushed (calls : List Call) :
    let run := performAll calls (.union [] false)
    let accepted := takenIn calls run.1
    ∃ parts drained current, run.2 = .union parts drained ∧
      (∀ t, ((Call.push t).perform run.2).1 = .flag (!drained && !t.exhausted)) ∧
      (drained = true ↔ accepted ≠ [] ∧ parts = []) ∧
      (∀ p ∈ parts, p.exhausted = false) ∧
      List.Forall₂ Consumed accepted current ∧
      (∃ done, current = done ++ parts ∧ ∀ d ∈ done, d.exhausted = true) ∧
      (∀ n, (run.2.take n).1 = takeAll n current) ∧
      (run.2.exhausted = true ↔ ∀ s ∈ current, s.exhausted = true) ∧
      ((∀ c ∈ calls, c ≠ .next) → ∀ n,
        drawnIn calls run.1 ++ (run.2.take n).1 =
          takeAll ((drawnIn calls run.1).length + n) accepted) := by
  intro run accepted
  obtain ⟨parts, drained, final, holds⟩ := holds_empty.performAll calls
  obtain ⟨finished, done, pending, split, consumed, ended, held⟩ := holds.played
  -- streams played out yield nothing, so the union yields what it still holds
  have yields : ∀ n, (run.2.take n).1 = takeAll n (done ++ parts) := fun n => by
    rw [final, take_union, takeAll_exhausted_append ended]
  have accepted_eq : accepted = finished ++ pending := by simpa using split
  refine ⟨parts, drained, done ++ parts, final, fun t => ?_, by simpa using holds.drained_iff,
    holds.live, accepted_eq ▸ List.rel_append consumed held, ⟨done, rfl, ended⟩, yields, ?_, ?_⟩
  · rw [final, perform_push_union]
    cases (!drained && !t.exhausted) <;> rfl
  · rw [final]
    exact exhausted_union_iff ended holds.live
  · intro noStep n
    obtain ⟨parts', drained', final', draws⟩ := drawsFrom_empty.performAll calls noStep
    rw [final'] at final
    obtain ⟨rfl, -⟩ := Stream.union.inj final
    rw [yields, takeAll_exhausted_append ended]
    simpa using draws n

end Stream

end InputMethod
