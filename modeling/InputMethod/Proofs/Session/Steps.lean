import Mathlib
import InputMethod.Session

/-! # Steps of a console session

A session runs command lines one after another (`executeAll`). Most of what a line does
touches only the composition: opening a round, listing candidates and selecting without
committing give the session another segmentation and leave the filters in another state, and
nothing else (`Resegments`). The one other way a selection ends is a commit (`select_cases`),
which the session reports as the single line `commit: TEXT` (`committedBy`); no other line a
selection prints reads as one.
-/

namespace InputMethod

namespace Session

/-- Run command lines one after another, each at its clock reading. -/
def executeAll (s : Session) : List (String × Nat) → Session
  | [] => s
  | (line, now) :: rest => (s.execute line now).2.executeAll rest

def committedReport : List String → Option String
  | [report] => afterPrefix? "commit: " report
  | _ => none

/-- The text a command line commits, as the session reports it. -/
def committedBy (line : String) (out : List String) : Option String :=
  match Command.ofLine line with
  | .select _ => committedReport out
  | _ => none

/-! ## Reports -/

theorem afterPrefix?_append (p t : String) : afterPrefix? p (p ++ t) = some t := by
  unfold afterPrefix?
  have begins : p.isPrefixOf (p ++ t) = true := by
    rw [String.isPrefixOf, String.startsWith_string_iff, String.toList_append]
    exact List.prefix_append _ _
  rw [if_pos begins, String.toList_append, ← String.length_toList, List.drop_left,
    String.ofList_toList]

theorem afterPrefix?_eq_none {p s : String} (differs : ¬ p.toList <+: s.toList) :
    afterPrefix? p s = none := by
  unfold afterPrefix?
  rw [if_neg]
  rwa [String.isPrefixOf, String.startsWith_string_iff]

theorem afterPrefix?_commit_of_head {s : String} {c : Char} (first : s.toList.head? = some c)
    (other : c ≠ 'c') : afterPrefix? "commit: " s = none := by
  apply afterPrefix?_eq_none
  intro begins
  obtain ⟨rest, split⟩ := begins
  have heads := congrArg List.head? split
  rw [first, show "commit: ".toList = ['c', 'o', 'm', 'm', 'i', 't', ':', ' '] by decide] at heads
  exact other (Option.some.inj heads).symm

theorem committedReport_commit (t : String) : committedReport ["commit: " ++ t] = some t :=
  afterPrefix?_append _ t

theorem committedReport_noComposition : committedReport ["no composition."] = none :=
  afterPrefix?_commit_of_head (c := 'n') (by decide) (by decide)

theorem committedReport_listing {header : String} (first : header.toList.head? = some 'i')
    (rest : List String) : committedReport (header :: rest) = none := by
  cases rest with
  | nil => exact afterPrefix?_commit_of_head first (by decide)
  | cons _ _ => rfl

theorem committedReport_listCandidates (s : Session) (count : Nat) :
    committedReport (s.listCandidates count).1 = none := by
  unfold listCandidates
  dsimp only
  split
  · exact committedReport_noComposition
  · split
    · exact committedReport_noComposition
    · exact committedReport_listing (by simp [String.toList_append]) _

/-! ## Changing only the composition -/

/-- `s'` is `s` with another segmentation, another chain and other engines, and nothing else
    changed. -/
def Resegments (s s' : Session) : Prop :=
  ∃ g chain registry, s' = { s with context := { s.context with segmentation := g }, chain, registry }

theorem Resegments.refl (s : Session) : Resegments s s := ⟨s.context.segmentation, s.chain, s.registry, rfl⟩

theorem Resegments.trans {s s' s'' : Session} (first : Resegments s s') (second : Resegments s' s'') :
    Resegments s s'' := by
  obtain ⟨g, chain, registry, rfl⟩ := first
  obtain ⟨g', chain', registry', rfl⟩ := second
  exact ⟨g', chain', registry', rfl⟩

theorem resegments_withSegmentation (s : Session) (g : Segmentation) :
    Resegments s (s.withSegmentation g) := ⟨g, s.chain, s.registry, rfl⟩

theorem resegments_withLast (s : Session) (seg : Segment) : Resegments s (s.withLast seg) :=
  resegments_withSegmentation s _

theorem resegments_openRound (s : Session) (now : Nat) : Resegments s (s.openRound now) := by
  unfold openRound
  dsimp only
  split
  · exact .refl s
  · next g _ =>
    split
    · exact ⟨_, _, _, rfl⟩
    · exact ⟨g, _, _, rfl⟩

theorem resegments_listCandidates (s : Session) (count : Nat) :
    Resegments s (s.listCandidates count).2 := by
  unfold listCandidates
  dsimp only
  split
  · exact .refl s
  · split
    · exact .refl s
    · exact resegments_withLast s _

theorem Resegments.gathered {s s' : Session} (r : Resegments s s') : s'.gathered = s.gathered := by
  obtain ⟨_, _, _, rfl⟩ := r
  rfl

theorem Resegments.autoContext {s s' : Session} (r : Resegments s s') :
    s'.autoContext = s.autoContext := by
  obtain ⟨_, _, _, rfl⟩ := r
  rfl

/-! ## Commits -/

def pendingText (s : Session) : String :=
  String.join (s.context.segmentation.segments.filterMap Segment.selected |>.map Candidate.text)

theorem commit_fst (s : Session) : s.commit.1 = ["commit: " ++ s.pendingText] := rfl

theorem gathered_commit (s : Session) :
    s.commit.2.gathered = if s.autoContext then
      String.ofList (keepTail autoContextBytes (s.gathered ++ s.pendingText).toList)
    else s.gathered := by
  cases auto : s.autoContext <;> simp [commit, pendingText, auto]

theorem hostText_commit {s : Session} (auto : s.autoContext = true) :
    s.commit.2.context.preceding = s.commit.2.gathered ∧
      s.commit.2.context.following = s.context.following := by
  simp [commit, auto, Context.setContextText, Context.commit, Context.clear]

/-! ## Selecting -/

/-- A selection reports no commit and changes only the composition, or commits what the
    session holds after a change of the composition. -/
theorem select_cases (s : Session) (index now : Nat) :
    (Resegments s (s.select index now).2 ∧ committedReport (s.select index now).1 = none) ∨
      ∃ s', Resegments s s' ∧ s.select index now = s'.commit := by
  unfold select
  dsimp only
  split
  · exact .inl ⟨.refl s, committedReport_noComposition⟩
  · split
    · next seg _ =>
      refine .inl ⟨resegments_withLast s _, ?_⟩
      apply afterPrefix?_commit_of_head (c := 'n') _ (by decide)
      simp [String.toList_append]
    · next closed _ =>
      split
      · next g _ =>
        -- the next round opens, and its listing starts with the input line
        have r := ((resegments_withLast s closed.close.2).trans
          (resegments_withSegmentation _ g)).trans (resegments_openRound _ now)
        exact .inl ⟨r.trans (resegments_listCandidates _ _), committedReport_listCandidates _ _⟩
      · exact .inr ⟨_, resegments_withLast s _, rfl⟩

end Session

end InputMethod
