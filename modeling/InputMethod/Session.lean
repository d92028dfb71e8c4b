import InputMethod.CodeTable
import InputMethod.Filter.Chain
import InputMethod.Decimal.Integer

/-! # Console sessions

A session composes text from a code table through a filter chain, driven by command lines. It
keeps a context, whose segmentation tracks the composition: the input is covered round by
round, each round a segment from where the last one ended to the end of the input, whose menu
holds the table's candidates for that rest of the input after the filters.

Selecting a candidate closes the round's segment at the candidate's end. When input is left, the
next round starts there; otherwise the texts of the selected candidates are committed, under the
kind of the last one. With auto context on, committed text is also gathered and its tail of at
most `autoContextBytes` bytes becomes the host's text before the caret.

The command lines (after trimming white space):

* `print candidate list`: list up to `maxListed` candidates of the round;
* `select candidate N`: select the N-th candidate of the round, counting from 1;
* `set option NAME`, `set option !NAME`: switch a context option on or off;
* `set context LEFT | RIGHT`: set the host's text around the caret;
* `clear context`: forget the host's text and the gathered text;
* `show context`: the host's text, the latest commit, auto context, the filters;
* `auto context on`, `auto context off`;
* any other line becomes the input, and the first page of candidates is listed.
-/

namespace InputMethod

/-- The most candidates `print candidate list` shows. -/
def maxListed : Nat := 100

/-- How many bytes of gathered commits auto context keeps. -/
def autoContextBytes : Nat := 30

def sessionTag : String := "abc"

def dropBytes : List Char → Nat → List Char
  | [], _ => []
  | cs, 0 => cs
  | c :: cs, n + 1 => dropBytes cs (n + 1 - c.utf8Size)

/-- The longest suffix of a text, starting at a character boundary, of at most `limit` bytes. -/
def keepTail (limit : Nat) : List Char → List Char
  | [] => []
  | c :: cs =>
    if ((c :: cs).map Char.utf8Size).foldl (· + ·) 0 ≤ limit then c :: cs else keepTail limit cs

def afterPrefix? (p s : String) : Option String :=
  if p.isPrefixOf s then some (String.ofList (s.toList.drop p.length)) else none

namespace Session

/-- A command line, read. -/
inductive Command where
  /-- A blank line, which does nothing. -/
  | blank
  | listAll
  /-- Select the candidate at a zero-based index. -/
  | select (index : Nat)
  /-- A `select candidate` line whose number is no positive integer. -/
  | badNumber (text : String)
  | setOption (name : String) (value : Bool)
  | setContext (preceding following : String)
  | clearContext
  | showContext
  | autoContext (on : Bool)
  | compose (input : String)

/-- Read a command line. -/
def Command.ofLine (raw : String) : Command :=
  let line := Text.trimWhite raw
  if line.isEmpty then .blank
  else if line == "print candidate list" then .listAll
  else match afterPrefix? "select candidate " line with
  | some arg =>
    let arg := Text.trimWhite arg
    match Decimal.readUnsigned 64 arg with
    | .ok (n + 1) => .select n
    | _ => .badNumber arg
  | none =>
  match afterPrefix? "set option " line with
  | some arg =>
    let arg := Text.trimWhite arg
    match afterPrefix? "!" arg with
    | some name => .setOption name false
    | none => .setOption arg true
  | none =>
  match afterPrefix? "set context " line with
  | some arg =>
    match arg.splitOn "|" with
    | left :: rest@(_ :: _) => .setContext (Text.trimWhite left) (Text.trimWhite ("|".intercalate rest))
    | _ => .setContext (Text.trimWhite arg) ""
  | none =>
    if line == "clear context" then .clearContext
    else if line == "show context" then .showContext
    else if line == "auto context on" then .autoContext true
    else if line == "auto context off" then .autoContext false
    else .compose line

end Session

/-- A console session: the table and the chain it composes with, the engines and files the
    filters work with, and the state of the composition. -/
structure Session where
  table : CodeTable
  chain : FilterChain
  registry : Registry := {}
  files : Files := {}
  context : Context := {}
  pageSize : Nat := 5
  autoContext : Bool := false
  gathered : String := ""

namespace Session

/-- A session over a table and a chain; a page lists at least one candidate. -/
def create (table : CodeTable) (chain : FilterChain) (registry : Registry) (files : Files)
    (pageSize : Nat) : Session :=
  { table, chain, registry, files, pageSize := max pageSize 1 }

/-- The session with its segmentation replaced. -/
def withSegmentation (s : Session) (g : Segmentation) : Session :=
  { s with context := { s.context with segmentation := g } }

/-- The session with the last segment replaced. -/
def withLast (s : Session) (seg : Segment) : Session :=
  s.withSegmentation { s.context.segmentation with
    segments := s.context.segmentation.segments.dropLast ++ [seg] }

/-- Open the round at the current start, ending at the end of the input, and give its segment
    the table's candidates for the rest of the input after the filters, at clock reading `now`. -/
def openRound (s : Session) (now : Nat) : Session :=
  let input := s.context.input
  let g := s.context.segmentation
  let start := g.currentStart
  match g.addSegment (Segment.tagged start input.utf8ByteSize [sessionTag]) with
  | (false, _) => s
  | (true, g) =>
    let s := s.withSegmentation g
    let code := String.ofList (dropBytes input.toList start)
    let (out, chain, registry) :=
      s.chain.apply s.registry s.files (s.table.query code start) (some s.context) now
    let s := { s with chain, registry }
    match g.last? with
    | some seg => s.withLast { seg with status := .guess, menu := some (Menu.ofStream out.stream) }
    | none => s

def candidateLine (i : Nat) (c : Candidate) : String :=
  toString (i + 1) ++ ". " ++ c.text ++ (if c.comment.isEmpty then "" else " " ++ c.comment) ++
    "  (" ++ c.kind ++ " [" ++ toString c.start ++ ", " ++ toString c.stop ++ ") q=" ++
    Decimal.fixed 3 c.quality ++ ")"

/-- List up to `count` candidates of the round. -/
def listCandidates (s : Session) (count : Nat) : List String × Session :=
  match s.context.segmentation.last? with
  | none => (["no composition."], s)
  | some seg =>
    match seg.menu with
    | none => (["no composition."], s)
    | some m =>
      let (available, m) := m.prepare count
      let header := "input: " ++ s.context.input ++ " [" ++ toString seg.start ++ ", " ++
        toString seg.stop ++ ")"
      let empty := if available == 0 then ["(no candidates)"] else []
      let items := (m.cached.take count).zipIdx.map fun (c, i) => candidateLine i c
      (header :: empty ++ items, s.withLast { seg with menu := some m })

/-- Commit the texts of the selected candidates, under the kind of the last one. -/
def commit (s : Session) : List String × Session :=
  let segments := s.context.segmentation.segments
  let text := String.join (segments.filterMap Segment.selected |>.map Candidate.text)
  let kind := ((segments.getLast?.bind Segment.selected).map Candidate.kind).getD "table"
  let context := s.context.commit kind text
  let s := { s with context }
  let s := if s.autoContext then
      let gathered := String.ofList (keepTail autoContextBytes (s.gathered ++ text).toList)
      { s with gathered, context := context.setContextText gathered context.following }
    else s
  (["commit: " ++ text], s)

/-- Select the candidate at `index` of the round and close its segment; then open the next
    round, or commit when the input is covered. -/
def select (s : Session) (index : Nat) (now : Nat) : List String × Session :=
  match s.context.segmentation.last? with
  | none => (["no composition."], s)
  | some seg =>
    match seg.select index with
    | (false, seg) => (["no candidate #" ++ toString (index + 1) ++ "."], s.withLast seg)
    | (true, seg) =>
      let s := s.withLast seg.close.2
      match s.context.segmentation.forward with
      | (true, g) => (s.withSegmentation g |>.openRound now).listCandidates s.pageSize
      | (false, _) => s.commit

/-- Make `input` the input and list the first page of its candidates. -/
def compose (s : Session) (input : String) (now : Nat) : List String × Session :=
  let context := s.context.setInput input
  let s := { s with context := { context with segmentation := context.segmentation.reset input } }
  (s.openRound now).listCandidates s.pageSize

/-- The lines of `show context`. -/
def showContext (s : Session) : List String :=
  ["left: " ++ Text.quote s.context.preceding, "right: " ++ Text.quote s.context.following,
    "last commit: " ++ Text.quote s.context.internalPreceding,
    "auto context: " ++ (if s.autoContext then "ON" else "OFF")] ++
  (if s.autoContext then ["accumulated: " ++ Text.quote s.gathered] else []) ++
  ["filters: " ++ Text.quoteList s.chain.names]

/-- Run a command at clock reading `now`: the lines it prints, and the session after it. -/
def perform (s : Session) (now : Nat) : Command → List String × Session
  | .blank => ([], s)
  | .listAll => s.listCandidates maxListed
  | .select index => s.select index now
  | .badNumber text => (["bad candidate number: " ++ text], s)
  | .setOption name value =>
    ([name ++ " set " ++ (if value then "on" else "off") ++ "."],
      { s with context := s.context.setOption name value })
  | .setContext preceding following =>
    let context := s.context.setContextText preceding following
    (["context set: left=" ++ Text.quote context.preceding ++ " right=" ++
        Text.quote context.following], { s with context })
  | .clearContext => (["context cleared."], { s with context := s.context.clearContextText, gathered := "" })
  | .showContext => (s.showContext, s)
  | .autoContext on =>
    (["auto context " ++ (if on then "ON" else "OFF") ++ "."], { s with autoContext := on })
  | .compose input => s.compose input now

/-- Run one command line at clock reading `now`. -/
def execute (s : Session) (line : String) (now : Nat) : List String × Session :=
  s.perform now (Command.ofLine line)

end Session

end InputMethod
