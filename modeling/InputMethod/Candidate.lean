/-! # Candidates

A candidate is one proposed output for a span of the raw input; spans are byte offsets.
A candidate is either *plain*, as a producer made it, or a *shadow* of another candidate:
a filter that only changes how a candidate is presented wraps it instead of copying it, so
the candidate it came from stays reachable (`Candidate.genuine`).

* `Candidate.text` and `Candidate.comment` are what a consumer is shown: a shadow shows its
  own text unless that is empty, and the base's comment in place of an empty one of its
  own only when it inherits comments.
* `Candidate.quality` is the ranking score. It belongs to the candidate itself: a shadow
  starts from its base's quality and keeps its own from then on.
-/

namespace InputMethod

/-- A proposed output for the byte span `[start, stop)` of the input. -/
inductive Candidate where
  | plain (tag : Option Nat) (kind : String) (start stop : Nat) (text comment preedit : String)
      (quality : Float)
  /-- A shadow of `base` with a kind, text and comment of its own. -/
  | shadow (base : Candidate) (kind text comment : String) (inheritComment : Bool)
      (quality : Float)

namespace Candidate

/-- A plain, untraced candidate with no comment and no preedit. -/
def make (kind : String) (start stop : Nat) (text : String) (quality : Float) : Candidate :=
  .plain none kind start stop text "" "" quality

/-- The shadow of `base` that starts from the base's current quality. -/
def shadowOf (base : Candidate) (kind text comment : String) (inheritComment : Bool) :
    Candidate :=
  .shadow base kind text comment inheritComment
    (match base with
     | .plain _ _ _ _ _ _ _ q => q
     | .shadow _ _ _ _ _ q => q)

/-- The kind of a candidate, such as `phrase` or `simplified`. -/
def kind : Candidate → String
  | .plain _ k .. => k
  | .shadow _ k .. => k

/-- Start of the span; a shadow answers for its base's span. -/
def start : Candidate → Nat
  | .plain _ _ s .. => s
  | .shadow o .. => o.start

/-- End of the span (exclusive). -/
def stop : Candidate → Nat
  | .plain _ _ _ e .. => e
  | .shadow o .. => o.stop

/-- The text shown: a shadow with empty text of its own shows its base's. -/
def text : Candidate → String
  | .plain _ _ _ _ t .. => t
  | .shadow o _ t .. => if t.isEmpty then o.text else t

/-- The comment shown: a shadow with an empty comment shows its base's only when it
    inherits comments. -/
def comment : Candidate → String
  | .plain _ _ _ _ _ c .. => c
  | .shadow o _ _ c inherit _ => if c.isEmpty && inherit then o.comment else c

def preedit : Candidate → String
  | .plain _ _ _ _ _ _ p _ => p
  | .shadow o .. => o.preedit

/-- The ranking score of this very candidate. -/
def quality : Candidate → Float
  | .plain _ _ _ _ _ _ _ q => q
  | .shadow _ _ _ _ _ q => q

/-- The same candidate with its ranking score overwritten. -/
def withQuality (q : Float) : Candidate → Candidate
  | .plain tag k s e t c p _ => .plain tag k s e t c p q
  | .shadow o k t c inherit _ => .shadow o k t c inherit q

/-- The trace number of a plain candidate; a shadow is a new candidate and has none. -/
def tag : Candidate → Option Nat
  | .plain tag .. => tag
  | .shadow .. => none

def isShadow : Candidate → Bool
  | .plain .. => false
  | .shadow .. => true

/-- The candidate at the bottom of the shadow links: the one a producer made. -/
def genuine : Candidate → Candidate
  | .plain tag k s e t c p q => .plain tag k s e t c p q
  | .shadow o .. => o.genuine

@[simp] theorem quality_withQuality (q : Float) (c : Candidate) : (c.withQuality q).quality = q := by
  cases c <;> rfl

@[simp] theorem text_withQuality (q : Float) (c : Candidate) : (c.withQuality q).text = c.text := by
  cases c <;> rfl

@[simp] theorem tag_withQuality (q : Float) (c : Candidate) : (c.withQuality q).tag = c.tag := by
  cases c <;> rfl

@[simp] theorem quality_shadowOf (o : Candidate) (k t c : String) (b : Bool) :
    (o.shadowOf k t c b).quality = o.quality := by
  cases o <;> rfl

end Candidate

end InputMethod
