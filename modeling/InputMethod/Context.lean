import InputMethod.Segmentation.Basic

/-! # Composition context

The context of a composition: the raw input and its segmentation, the caret, runtime switches
(options), the text around the caret as the host reports it, and a short history of committed
text. Filters read it; the host and the session write it.

* `set_input` moves the caret to the end and amends the segmentation, so the segmentation's
  input is always the context's input;
* `commit` records a commit and clears the composition; options, host text and history are
  kept by `clear`.
-/

namespace InputMethod

/-- One piece of committed text, with the kind of candidate it came from. -/
structure CommitRecord where
  kind : String
  text : String

/-- The most records a history keeps. -/
def historyCapacity : Nat := 20

/-- The latest committed texts, oldest first, at most `historyCapacity` of them. -/
structure History where
  records : List CommitRecord := []

namespace History

/-- Record a commit, forgetting the oldest records beyond the capacity. -/
def push (kind text : String) (h : History) : History :=
  let rs := h.records ++ [⟨kind, text⟩]
  { records := rs.drop (rs.length - historyCapacity) }

/-- The newest committed text, or `""`. -/
def latestText (h : History) : String := (h.records.getLast?.map CommitRecord.text).getD ""

end History

/-- The state of a composition as filters see it. -/
structure Context where
  input : String := ""
  caret : Nat := 0
  segmentation : Segmentation := {}
  options : List (String × Bool) := []
  preceding : String := ""
  following : String := ""
  history : History := {}

namespace Context

/-- Replace the input; the caret moves to its end and the segmentation is amended. -/
def setInput (input : String) (c : Context) : Context :=
  { c with input, caret := input.utf8ByteSize, segmentation := c.segmentation.amend input }

def setCaretPos (pos : Nat) (c : Context) : Context :=
  { c with caret := min pos c.input.utf8ByteSize }

/-- The value of an option; options never set read `false`. -/
def getOption (name : String) (c : Context) : Bool :=
  ((c.options.find? (·.1 == name)).map Prod.snd).getD false

/-- Set an option. -/
def setOption (name : String) (value : Bool) (c : Context) : Context :=
  if c.options.any (·.1 == name) then
    { c with options := c.options.map fun o => if o.1 == name then (name, value) else o }
  else { c with options := c.options ++ [(name, value)] }

/-- Set the host's text before and after the caret. -/
def setContextText (preceding following : String) (c : Context) : Context :=
  { c with preceding, following }

/-- Forget the host's text around the caret. -/
def clearContextText (c : Context) : Context := { c with preceding := "", following := "" }

/-- The text before the caret that the session tracks itself: the latest commit. -/
def internalPreceding (c : Context) : String := c.history.latestText

/-- Drop the composition: input, caret and segments. -/
def clear (c : Context) : Context :=
  { c with input := "", caret := 0, segmentation := c.segmentation.reset "" }

/-- Record a commit and clear the composition. -/
def commit (kind text : String) (c : Context) : Context :=
  ({ c with history := c.history.push kind text }).clear

def isComposing (c : Context) : Bool := !c.input.isEmpty

/-! ## Commands -/

/-- A command of the context's command language. -/
inductive Command where
  | setInput (input : String)
  | setCaretPos (pos : Nat)
  | setOption (name : String) (value : Bool)
  | getOption (name : String)
  | setContextText (preceding following : String)
  | clearContextText
  | commit (kind text : String)
  | clear
  | historyPush (kind text : String)
  | historyClear
  | historyLength
  /-- A command for the context's own segmentation. -/
  | segmentation (command : Segmentation.Command)

/-- What a context command answers. -/
inductive Reply where
  | done
  | flag (b : Bool)
  | length (n : Nat)
  | segmentation (r : Segmentation.Reply)

/-- Run a command. -/
def perform : Command → Context → Reply × Context
  | .setInput input, c => (.done, c.setInput input)
  | .setCaretPos pos, c => (.done, c.setCaretPos pos)
  | .setOption name value, c => (.done, c.setOption name value)
  | .getOption name, c => (.flag (c.getOption name), c)
  | .setContextText p f, c => (.done, c.setContextText p f)
  | .clearContextText, c => (.done, c.clearContextText)
  | .commit kind text, c => (.done, c.commit kind text)
  | .clear, c => (.done, c.clear)
  | .historyPush kind text, c => (.done, { c with history := c.history.push kind text })
  | .historyClear, c => (.done, { c with history := {} })
  | .historyLength, c => (.length c.history.records.length, c)
  | .segmentation command, c =>
    let (r, g) := Segmentation.perform command c.segmentation
    (.segmentation r, { c with segmentation := g })

end Context

end InputMethod
