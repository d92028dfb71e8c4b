import Mathlib.Data.List.DropRight
import InputMethod.Context
import InputMethod.Proofs.Segmentation.Cover
import InputMethod.Proofs.KeyedLists

/-! # The context as a state machine

A host drives a context by commands: it sets the input and moves the caret, switches options,
reports the text around the caret, commits text and clears the composition, and pushes onto or
clears the commit history directly. Along every such run from a new context (`Tracks`):

* the caret lies within the input, and the segmentation works on the context's own input;
* the history holds the last `historyCapacity` records pushed since it was last cleared, oldest
  first (`pushedSinceClear`), so the text before the caret that the context tracks itself is
  the newest of them;
* an option reads the value it was last set to, and `false` before that (`latestSetting`).

Setting the input, committing and clearing leave the options and the host's text alone.

The history's one fact is that a window trimmed and then pushed onto is the window of the whole
record list pushed onto (`rtake_push`): trimming after every push loses nothing a later window
would show.
-/

namespace InputMethod

namespace Context

/-- Commands one after another, from `c`. -/
def performAll (commands : List Command) (c : Context) : Context :=
  commands.foldl (fun c command => (perform command c).2) c

theorem performAll_append_singleton (commands : List Command) (command : Command) (c : Context) :
    performAll (commands ++ [command]) c = (perform command (performAll commands c)).2 := by
  simp [performAll, List.foldl_append]

def Command.editsSegmentation : Command → Bool
  | .segmentation _ => true
  | _ => false

def Command.composes : Command → Bool
  | .setInput _ | .commit _ _ | .clear => true
  | _ => false

def Command.pushed? : Command → Option CommitRecord
  | .commit kind text | .historyPush kind text => some ⟨kind, text⟩
  | _ => none

def pushedAfter (pushed : List CommitRecord) : Command → List CommitRecord
  | .historyClear => []
  | command => pushed ++ command.pushed?.toList

/-- The records `commands` push onto the history since they last clear it, oldest first. -/
def pushedSinceClear (commands : List Command) : List CommitRecord :=
  commands.foldl pushedAfter []

def settingAfter (name : String) (setting : Option Bool) : Command → Option Bool
  | .setOption n v => if n = name then some v else setting
  | _ => setting

/-- The value `commands` last set option `name` to. -/
def latestSetting (name : String) (commands : List Command) : Option Bool :=
  commands.foldl (settingAfter name) none

/-! ## What setting an option leaves alone -/

@[simp] theorem history_setOption (c : Context) (n : String) (v : Bool) :
    (c.setOption n v).history = c.history := by
  unfold setOption
  split <;> rfl

@[simp] theorem input_setOption (c : Context) (n : String) (v : Bool) :
    (c.setOption n v).input = c.input := by
  unfold setOption
  split <;> rfl

@[simp] theorem caret_setOption (c : Context) (n : String) (v : Bool) :
    (c.setOption n v).caret = c.caret := by
  unfold setOption
  split <;> rfl

@[simp] theorem segmentation_setOption (c : Context) (n : String) (v : Bool) :
    (c.setOption n v).segmentation = c.segmentation := by
  unfold setOption
  split <;> rfl

/-! ## The history window -/

/-- A window trimmed and then pushed onto is the window of the whole list pushed onto. -/
theorem rtake_push {α : Type} (l : List α) (x : α) (n : Nat) :
    (l.rtake n ++ [x]).rtake n = (l ++ [x]).rtake n := by
  cases n with
  | zero => simp [List.rtake_zero]
  | succ n =>
    rw [List.rtake_concat_succ, List.rtake_concat_succ]
    congr 1
    simp only [List.rtake_eq_reverse_take_reverse, List.reverse_reverse, List.take_take,
      Nat.min_eq_left (Nat.le_succ n)]

theorem getLast?_rtake_succ {α : Type} (l : List α) (n : Nat) :
    (l.rtake (n + 1)).getLast? = l.getLast? := by
  simp [List.rtake_eq_reverse_take_reverse, List.getLast?_reverse, List.head?_take]

theorem records_push (h : History) (kind text : String) :
    (h.push kind text).records = (h.records ++ [CommitRecord.mk kind text]).rtake historyCapacity := by
  simp only [History.push, List.rtake]

theorem records_perform (command : Command) {c : Context} {pushed : List CommitRecord}
    (window : c.history.records = pushed.rtake historyCapacity) :
    (perform command c).2.history.records = (pushedAfter pushed command).rtake historyCapacity := by
  cases command with
  | commit kind text | historyPush kind text =>
    simp only [perform, commit, clear, records_push, window, pushedAfter, Command.pushed?,
      Option.toList_some, rtake_push]
  | historyClear => simp [perform, pushedAfter]
  | setInput _ | setCaretPos _ | setOption _ _ | getOption _ | setContextText _ _
    | clearContextText | clear | historyLength | segmentation _ =>
    simpa [perform, pushedAfter, Command.pushed?, setInput, setCaretPos, setContextText,
      clearContextText, clear] using window

/-! ## Options -/

theorem options_setOption (c : Context) (n : String) (v : Bool) :
    (c.setOption n v).options = Bigram.Model.setAt n (fun _ => v) c.options := by
  unfold setOption Bigram.Model.setAt
  split <;> rfl

theorem getOption_setOption (c : Context) (n name : String) (v : Bool) :
    (c.setOption n v).getOption name = if n = name then v else c.getOption name := by
  unfold getOption
  rw [options_setOption, Bigram.Model.find?_setAt]
  split <;> rfl

theorem getOption_perform (command : Command) {c : Context} {name : String}
    {setting : Option Bool} (reads : c.getOption name = setting.getD false) :
    (perform command c).2.getOption name = (settingAfter name setting command).getD false := by
  cases command with
  | setOption n v =>
    simp only [perform, getOption_setOption, settingAfter]
    split <;> simp_all
  | _ =>
    simpa [perform, settingAfter, getOption, setInput, setCaretPos, setContextText,
      clearContextText, commit, clear] using reads

/-! ## Input, caret and segmentation -/

theorem input_forward (g : Segmentation) : g.forward.2.input = g.input := by
  rcases g.forward_cases with same | ⟨_, _, _, grown⟩
  · rw [same]
  · rw [grown]

theorem input_amend (input : String) (g : Segmentation) : (g.amend input).input = input := by
  unfold Segmentation.amend
  dsimp only
  split
  · rfl
  · exact input_forward _

/-- The caret lies within the input, and the segmentation works on the context's input. -/
structure Sound (c : Context) : Prop where
  caret_le : c.caret ≤ c.input.utf8ByteSize
  segmentation_input : c.segmentation.input = c.input

theorem sound_empty : Sound {} := ⟨Nat.zero_le _, rfl⟩

theorem Sound.perform {c : Context} (sound : c.Sound) (command : Command)
    (hostOnly : command.editsSegmentation = false) : (Context.perform command c).2.Sound := by
  cases command with
  | setInput input => exact ⟨Nat.le_refl _, input_amend input _⟩
  | setCaretPos pos => exact ⟨Nat.min_le_right _ _, sound.segmentation_input⟩
  | commit _ _ | clear => exact ⟨Nat.zero_le _, rfl⟩
  | segmentation _ => simp [Command.editsSegmentation] at hostOnly
  | setOption name value =>
    exact ⟨by simpa [Context.perform] using sound.caret_le,
      by simpa [Context.perform] using sound.segmentation_input⟩
  | getOption _ | setContextText _ _ | clearContextText | historyPush _ _ | historyClear
    | historyLength => exact ⟨sound.caret_le, sound.segmentation_input⟩

/-! ## Runs -/

/-- What a context shows of the commands that led to it from a new context. -/
structure Tracks (commands : List Command) (c : Context) : Prop where
  sound : c.Sound
  records : c.history.records = (pushedSinceClear commands).rtake historyCapacity
  internalPreceding :
    c.internalPreceding = ((pushedSinceClear commands).getLast?.map CommitRecord.text).getD ""
  getOption : ∀ name, c.getOption name = (latestSetting name commands).getD false

def KeepsHost (command : Command) : Prop :=
  ∀ c : Context, (perform command c).2.options = c.options ∧
    (perform command c).2.preceding = c.preceding ∧ (perform command c).2.following = c.following

theorem keepsHost_of_composes {command : Command} (composing : command.composes = true) :
    KeepsHost command := by
  intro c
  cases command <;> simp_all [Command.composes, perform, setInput, commit, clear]

theorem internalPreceding_of_records {c : Context} {pushed : List CommitRecord}
    (window : c.history.records = pushed.rtake historyCapacity) :
    c.internalPreceding = (pushed.getLast?.map CommitRecord.text).getD "" := by
  simp only [internalPreceding, History.latestText, window, historyCapacity, getLast?_rtake_succ]

theorem tracks_performAll (commands : List Command)
    (hostOnly : ∀ command ∈ commands, command.editsSegmentation = false) :
    Tracks commands (performAll commands {}) := by
  induction commands using List.reverseRecOn with
  | nil => exact ⟨sound_empty, rfl, rfl, fun _ => rfl⟩
  | append_singleton commands command inductionHypothesis =>
    have earlier := inductionHypothesis fun c member => hostOnly c (List.mem_append_left _ member)
    have records : (performAll (commands ++ [command]) {}).history.records =
        (pushedSinceClear (commands ++ [command])).rtake historyCapacity := by
      rw [performAll_append_singleton, pushedSinceClear, List.foldl_append, List.foldl_cons,
        List.foldl_nil]
      exact records_perform command earlier.records
    refine ⟨?_, records, internalPreceding_of_records records, fun name => ?_⟩
    · rw [performAll_append_singleton]
      exact earlier.sound.perform command (hostOnly command (by simp))
    · rw [performAll_append_singleton, latestSetting, List.foldl_append, List.foldl_cons,
        List.foldl_nil]
      exact getOption_perform command (earlier.getOption name)

/-- Along every run of host commands from a new context, the caret stays within the input, the
    segmentation works on the context's input, the history holds the last `historyCapacity`
    records pushed since it was last cleared with the newest as the tracked preceding text, and
    every option reads its latest setting; setting the input, committing and clearing never
    touch the options or the host's text. -/
theorem performAll_tracks (commands : List Command)
    (hostOnly : ∀ command ∈ commands, command.editsSegmentation = false) :
    Tracks commands (performAll commands {}) ∧
      ∀ command : Command, command.composes = true → KeepsHost command :=
  ⟨tracks_performAll commands hostOnly, fun _ => keepsHost_of_composes⟩

/-- A host that switches an option on, types and commits. -/
theorem tracks_option_and_commit :
    (∀ command ∈ [Command.setOption "simplification" true, .setInput "chi",
        .commit "phrase" "吃"], command.editsSegmentation = false) ∧
      (Tracks [.setOption "simplification" true, .setInput "chi", .commit "phrase" "吃"]
          (performAll [.setOption "simplification" true, .setInput "chi", .commit "phrase" "吃"] {}) ∧
        ∀ command : Command, command.composes = true → KeepsHost command) :=
  ⟨by decide, performAll_tracks _ (by decide)⟩

end Context

end InputMethod
