import InputMethod.Proofs.Stream.Playback

/-! # Calls on a stream

Producers and consumers drive a stream by calls: `append` to a queue, `push` onto a union,
`peek` at the head, step past it with `next`, or `draw` the next candidate as a consumer's
iterator does. A run of calls answers each with a reply (`performAll`).

The main statement here, `performAll_sealed`, is when a stream is done for good. A stream that
reports exhaustion refuses every later call and stays as it is — unless it is a queue or a union
that has never held anything (`fresh`): those report exhaustion and still take every candidate
appended and every live stream pushed, and then play it (`fresh_reopens`). Only a fresh stream
leads to a fresh stream (`fresh_of_perform`), so in a run a fresh stream is one that has been
fresh all along.

Two facts about looking are shared with the union's laws: a look leaves exhaustion as it is
(`exhausted_peek`) and changes nothing a consumer draws next (`pull_peek`).
-/

namespace InputMethod

namespace Stream

/-- A call a producer or a consumer makes on a stream. -/
inductive Call where
  /-- Add a candidate at the end of a queue. -/
  | append (c : Candidate)
  /-- Queue a stream after the streams of a union. -/
  | push (s : Stream)
  /-- Look at the head. -/
  | peek
  /-- Step past the head slot. -/
  | next
  /-- Draw the next candidate, past empty slots, as a consumer's iterator does. -/
  | draw

/-- What a call answers. -/
inductive Reply where
  | flag (taken : Bool)
  | found (c : Option Candidate)

/-- A call on a stream: its reply and the stream after it. -/
def Call.perform : Call → Stream → Reply × Stream
  | .append c, s => (s.append c).map .flag id
  | .push t, s => (s.push t).map .flag id
  | .peek, s => s.peek.map .found id
  | .next, s => s.next.map .flag id
  | .draw, s => s.pull.map .found id

/-- Calls one after another: their replies, and the stream after the last. -/
def performAll : List Call → Stream → List Reply × Stream
  | [], s => ([], s)
  | c :: rest, s =>
    let (reply, s') := c.perform s
    let (replies, s'') := performAll rest s'
    (reply :: replies, s'')

def Call.refusal : Call → Reply
  | .append _ | .push _ | .next => .flag false
  | .peek | .draw => .found none

@[simp] theorem performAll_nil (s : Stream) : performAll [] s = ([], s) := rfl

theorem performAll_cons (c : Call) (rest : List Call) (s : Stream) :
    performAll (c :: rest) s =
      ((c.perform s).1 :: (performAll rest (c.perform s).2).1,
        (performAll rest (c.perform s).2).2) :=
  rfl

/-! ## Looking changes nothing -/

/-- A look leaves the stream exactly as exhausted as it was. -/
@[simp] theorem exhausted_peek : ∀ s : Stream, s.peek.2.exhausted = s.exhausted
  | .queue .. | .slots _ | .generate .. | .union [] _ => rfl
  | .union (_ :: _) _ => rfl
  | .expand cache expansion done source => by
    cases done with
    | true => rfl
    | false =>
      cases cache with
      | cons c rest => rfl
      | nil => rcases pulled : source.pull with ⟨_ | c, source'⟩ <;> simp [peek, pulled, exhausted]

/-- A look changes nothing a consumer draws next: an expanding stream refills its cache from
    its source as a draw would. -/
theorem pull_peek : ∀ s : Stream, s.peek.2.pull = s.pull
  | .queue .. | .slots _ | .generate .. | .union [] _ => rfl
  | .union (part :: parts) drained => by
    simp only [peek, pull, pullParts, pull_peek part]
  | .expand cache expansion done source => by
    cases done with
    | true => rfl
    | false =>
      cases cache with
      | cons c rest => rfl
      | nil =>
        rcases pulled : source.pull with ⟨_ | c, source'⟩
        -- the source ran dry: the refill found nothing, and the draw after it finds nothing
        · have dry := exhausted_of_pull_none pulled
          simp [peek, pull, pulled, pull_of_exhausted dry]
        · simp [peek, pull, pulled]

theorem take_peek (n : Nat) (s : Stream) : (s.peek.2.take n).1 = (s.take n).1 := by
  cases n with
  | zero => rfl
  | succ n => rw [take_succ_congr (pull_peek s)]

/-! ## Streams done for good -/

/-- A stream that has never held anything: an empty queue or union that was never drained. -/
def fresh (s : Stream) : Prop := s = .queue [] false ∨ s = .union [] false

def Sealed (s : Stream) : Prop := s.exhausted = true ∧ ¬ s.fresh

theorem sealed_iff {s : Stream} :
    s.Sealed ↔ (∃ pending, s = .queue pending true) ∨ s = .slots [] ∨ s = .union [] true ∨
      ∃ cache expansion source, s = .expand cache expansion true source := by
  constructor
  · rintro ⟨ended, notFresh⟩
    cases s with
    | queue pending drained =>
      cases drained with
      | true => exact .inl ⟨pending, rfl⟩
      | false =>
        have noPending : pending = [] := by simpa [Stream.exhausted] using ended
        exact absurd (.inl (by rw [noPending])) notFresh
    | slots pending =>
      have noSlots : pending = [] := by simpa [Stream.exhausted] using ended
      exact .inr (.inl (by rw [noSlots]))
    | generate => simp [Stream.exhausted] at ended
    | union parts drained =>
      have noParts : parts = [] := by simpa [Stream.exhausted] using ended
      subst noParts
      cases drained with
      | true => exact .inr (.inr (.inl rfl))
      | false => exact absurd (.inr rfl) notFresh
    | expand cache expansion done source =>
      have isDone : done = true := by simpa [Stream.exhausted] using ended
      exact .inr (.inr (.inr ⟨cache, expansion, source, by rw [isDone]⟩))
  · rintro (⟨pending, rfl⟩ | rfl | rfl | ⟨cache, expansion, source, rfl⟩) <;>
      simp [Sealed, fresh, Stream.exhausted]

theorem Call.perform_sealed {s : Stream} (sealed : s.Sealed) (c : Call) :
    c.perform s = (c.refusal, s) := by
  rcases sealed_iff.mp sealed with ⟨pending, rfl⟩ | rfl | rfl | ⟨cache, expansion, source, rfl⟩ <;>
    cases c <;> rfl

/-- Exhaustion is final for every stream but a fresh one: from a stream that reports exhaustion
    and has held something, every call of every run is refused — no append or push is taken,
    no step is taken, no look or draw finds a candidate — and the stream stays as it is, still
    exhausted. -/
theorem performAll_sealed {s : Stream} (sealed : s.Sealed) (calls : List Call) :
    performAll calls s = (calls.map Call.refusal, s) := by
  induction calls with
  | nil => rfl
  | cons c rest inductionHypothesis =>
    rw [performAll_cons, Call.perform_sealed sealed c, inductionHypothesis]
    rfl

/-- A queue drained by a draw takes no late append and yields nothing more. -/
theorem drained_queue_refuses :
    (Stream.queue [] true).Sealed ∧
      performAll [.append (.make "phrase" 0 4 "late" 0.0), .peek, .next, .draw]
          (.queue [] true) =
        ([.flag false, .found none, .flag false, .found none], .queue [] true) :=
  ⟨⟨rfl, by simp [fresh]⟩, performAll_sealed ⟨rfl, by simp [fresh]⟩ _⟩

/-- The fresh streams report exhaustion and still take what is added, and then play it: an
    empty queue takes every candidate appended and shows it, and an empty union takes every
    stream that is not exhausted and plays it, exhausted exactly when that stream is. -/
theorem fresh_reopens (c : Candidate) (t : Stream) :
    (Stream.empty.exhausted = true ∧
      performAll [.append c, .peek] Stream.empty =
        ([.flag true, .found (some c)], .queue [c] false) ∧
      (Stream.queue [c] false).exhausted = false) ∧
    ((Stream.union [] false).exhausted = true ∧
      (Call.push t).perform (.union [] false) =
        (.flag !t.exhausted, if t.exhausted then .union [] false else .union [t] false) ∧
      ((Call.push t).perform (.union [] false)).2.exhausted = t.exhausted ∧
      ∀ n, (((Call.push t).perform (.union [] false)).2.take n).1 = (t.take n).1) := by
  have pushed : (Call.push t).perform (.union [] false) =
      (.flag !t.exhausted, if t.exhausted then .union [] false else .union [t] false) := by
    cases live : t.exhausted <;> simp [Call.perform, Stream.push, live]
  refine ⟨⟨rfl, rfl, rfl⟩, rfl, pushed, ?_, fun n => ?_⟩ <;> rw [pushed]
  · cases t.exhausted <;> rfl
  -- an exhausted stream is refused, and plays nothing as the empty union does
  · cases live : t.exhausted with
    | true => rw [if_pos rfl, take_union_nil, take_of_exhausted live]
    | false => rw [if_neg Bool.false_ne_true, take_union_cons n t [] false false, take_union_nil,
        List.append_nil]

/-- An empty queue reports exhaustion, yet takes a candidate appended to it and then shows it. -/
theorem fresh_queue_reopens :
    Stream.empty.exhausted = true ∧
      performAll [.append (.make "phrase" 0 1 "a" 0.0), .peek] Stream.empty =
        ([.flag true, .found (some (.make "phrase" 0 1 "a" 0.0))],
          .queue [.make "phrase" 0 1 "a" 0.0] false) ∧
      (Stream.queue [.make "phrase" 0 1 "a" 0.0] false).exhausted = false :=
  (fresh_reopens (.make "phrase" 0 1 "a" 0.0) .empty).1

theorem pullParts_drained_of_nil {parts : List Stream} {drained drained' : Bool}
    {c : Option Candidate} (nonempty : parts ≠ [])
    (pulled : pullParts parts drained = (c, [], drained')) : drained' = true := by
  induction parts generalizing drained with
  | nil => exact absurd rfl nonempty
  | cons part rest inductionHypothesis =>
    rw [pullParts] at pulled
    split at pulled
    · split at pulled
      · cases rest with
        | nil => simp_all
        | cons _ _ => simp at pulled
      · simp at pulled
    · cases rest with
      | nil =>
        simp only [pullParts, Bool.or_true, List.isEmpty_nil, Prod.mk.injEq] at pulled
        exact pulled.2.2.symm
      | cons _ _ => exact inductionHypothesis (by simp) pulled

theorem fresh_of_perform_union {parts : List Stream} {drained : Bool} (c : Call)
    (leads : (c.perform (.union parts drained)).2.fresh) : parts = [] ∧ drained = false := by
  cases c with
  | append => simpa [Call.perform, Stream.append, fresh] using leads
  | push t =>
    cases drained with
    | true => simp [Call.perform, Stream.push, fresh] at leads
    | false =>
      simp only [Call.perform, Stream.push] at leads
      split at leads <;> simp_all [fresh]
  | peek => cases parts <;> simp_all [Call.perform, peek, fresh]
  | next =>
    cases parts with
    | nil => simpa [Call.perform, next, fresh] using leads
    | cons part rest =>
      simp only [Call.perform, next] at leads
      split at leads <;> cases rest <;> simp_all [fresh]
  | draw =>
    cases parts with
    | nil => simpa [Call.perform, pull, pullParts, fresh] using leads
    | cons part rest =>
      -- a union whose last part runs dry is left drained, so never fresh
      rcases pulled : pullParts (part :: rest) drained with ⟨found, parts', drained'⟩
      simp only [Call.perform, pull, pulled, Prod.map_snd, id, fresh, reduceCtorEq,
        Stream.union.injEq, false_or] at leads
      obtain ⟨rfl, rfl⟩ := leads
      simpa using pullParts_drained_of_nil (by simp) pulled

/-- Only a fresh stream leads to a fresh stream: once a queue or a union has held something,
    no call makes it fresh again. Slots, generated and expanding streams keep their kind. -/
theorem fresh_of_perform {s : Stream} (c : Call) (leads : (c.perform s).2.fresh) : s.fresh := by
  cases s with
  | queue pending drained =>
    -- an append leaves a candidate in the queue, and a step or draw that empties it drains it
    cases c <;> cases drained <;> cases pending <;>
      simp_all [Call.perform, fresh, Stream.append, Stream.push, peek, next, pull]
  | union parts drained =>
    obtain ⟨rfl, rfl⟩ := fresh_of_perform_union c leads
    exact .inr rfl
  | slots pending =>
    cases pending <;> cases c <;>
      simp [Call.perform, fresh, Stream.append, Stream.push, peek, next, pull] at leads
  | generate =>
    cases c <;> simp [Call.perform, fresh, Stream.append, Stream.push, peek, next, pull] at leads
  | expand cache expansion done source =>
    cases done with
    | true =>
      cases c <;> simp [Call.perform, fresh, Stream.append, Stream.push, peek, next, pull] at leads
    | false =>
      cases cache with
      | cons =>
        cases c <;>
          simp [Call.perform, fresh, Stream.append, Stream.push, peek, next, pull] at leads
      | nil =>
        rcases pulled : source.pull with ⟨_ | head, source'⟩ <;> cases c <;>
          simp [Call.perform, fresh, Stream.append, Stream.push, peek, next, pull, pulled] at leads

theorem fresh_of_performAll {s : Stream} (calls : List Call)
    (leads : (performAll calls s).2.fresh) : s.fresh := by
  induction calls generalizing s with
  | nil => exact leads
  | cons c rest inductionHypothesis =>
    rw [performAll_cons] at leads
    exact fresh_of_perform c (inductionHypothesis leads)

end Stream

end InputMethod
