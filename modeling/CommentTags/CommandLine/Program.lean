import CommentTags.CommandLine.Scan
import CommentTags.Text.Similarity

namespace CommentTags.CommandLine

inductive ProgramOption where
  | version
  | help
deriving DecidableEq, Repr

def version : Text := "0.1.0".toList

def programSpec : CommandSpec ProgramOption where
  name := "summon".toList
  arguments := "[OPTIONS] COMMAND [ARGS]...".toList
  description :=
    [.prose "issue-summoner - Turn actionable comments into issue records".toList,
      .verbatim (["QUICK START:",
        "  summon scan                 # Report @TODO comments under the current directory",
        "  summon scan -t @FIXME       # Search for a different tag"].map String.toList),
      .verbatim ["For detailed options: summon <command> --help".toList]]
  options :=
    [⟨.version, ["--version".toList], none, "Show the version and exit.".toList⟩,
      ⟨.help, ["-h".toList, "--help".toList], none, "Show this message and exit.".toList⟩]

inductive Command where
  | scan
deriving DecidableEq, Repr

namespace Command

def all : List Command := [.scan]

def name : Command → Text
  | .scan => "scan".toList

def ofName? (s : Text) : Option Command := all.find? (·.name = s)

def summary : Command → Text
  | .scan => "Scan source files for actionable comments and report them".toList

def hint : Command → Text
  | .scan => "USE: Need a list of @TODO-style comments".toList

end Command

def stroke (n : Nat) : Text := List.replicate n '─'

def titledRule (width : Nat) (title : Text) : Text :=
  if width ≤ 4 then stroke width
  else
    let title := Console.abbreviate (width - 4) title
    let left := (width - Console.cells title) / 2 - 1
    stroke left ++ ' ' :: title ++ ' ' :: stroke (width - left - 2 - Console.cells title)

def narrow : (count excess : Nat) → List Nat → List Nat
  | _, _, [] => []
  | count, excess, w :: ws =>
    if w = 0 then 0 :: narrow count excess ws
    else
      let part := min w (Console.nearest excess count)
      (w - part) :: narrow (count - 1) (excess - part) ws

/-- The widths of the columns with a name, a summary and a hint, with two blanks behind each. The
summary gives way before the others do. -/
def overviewWidths (width : Nat) (summary : Text) : List Nat :=
  let name := min 14 width
  let middle := min (Console.cells summary + 2) width
  let hint := min 42 width
  let excess := name + middle + hint - width
  if excess ≤ middle then [name, middle - excess, hint]
  else narrow 2 (excess - middle) [name, 0, hint]

def overviewRow (width : Nat) (c : Command) : List Text :=
  let widths := overviewWidths width c.summary
  let parts := List.zipWith (fun width cell => Console.cellLines (width - 2) cell) widths
    [c.name, c.summary, c.hint]
  let height := (parts.map List.length).foldl max 1
  let cell (width : Nat) (line : Text) :=
    Console.padded width (Console.abbreviate (width - 2) line)
  (List.range height).map (fun i =>
    (List.zipWith (fun width lines => cell width (lines[i]?.getD [])) widths parts).flatten)

def commandOverview (width : Nat) : Text :=
  let prose (s : String) := (Console.shownLines .fold width s.toList).map (Console.crop width)
  let lines := [[], titledRule width "COMMANDS".toList, []] ++ prose "SCANNING" ++
    prose "Find actionable comments in source code" ++ Command.all.flatMap (overviewRow width) ++
    [[], stroke width] ++ prose "For detailed options: summon <command> --help"
  lines.flatMap (· ++ ['\n'])

def unknownCommand (name : Text) : Text :=
  let similar := Command.all.filter (fun c => Text.isSimilar c.name name)
  "No such command ".toList ++ Text.quoted name ++ ['.'] ++
    similar.flatMap (fun c => " Did you mean ".toList ++ Text.quoted c.name ++ ['?'])

namespace Program

def readOptions (args : List Text) : Action (List Text) := do
  match parse programSpec.options false args with
  | .error e => .halt (.complaint (programSpec.complaintOf e))
  | .ok parsed =>
    match parsed.given.head? with
    | some ⟨.version, _⟩ =>
      .print ("summon, version ".toList ++ version ++ ['\n'])
      .halt (.exit 0)
    | some ⟨.help, _⟩ =>
      .print (commandOverview (← Action.session).host.width)
      .print programSpec.help
      .halt (.exit 0)
    | none => return parsed.rest

def perform (command : Command) (args : List Text) : Action Unit :=
  match command with
  | .scan => do Scan.guarded (← ScanRequest.ofArguments args)

def body (args : List Text) : Action Unit := do
  if args.isEmpty then
    .print (commandOverview (← Action.session).host.width)
    .printError programSpec.help
    .halt (.exit 2)
  else
    match ← readOptions args with
    | [] => .halt (.complaint (programSpec.complaint "Missing command.".toList))
    | name :: rest =>
      match Command.ofName? name with
      | some command => perform command rest
      | none =>
        if name.head? = some '-' then
          let _ ← readOptions (name :: rest)
        .halt (.complaint (programSpec.complaint (unknownCommand name)))

end Program

structure Outcome where
  session : Session
  exitCode : Int
  escaped : Option Fault := none

def Outcome.ofHalt (s : Session) : Halt → Outcome
  | .exit code => ⟨s, code, none⟩
  | .quit code => ⟨s, code, none⟩
  | .abort => ⟨s.emit [.err "Aborted!\n".toList], 1, none⟩
  | .interrupt _ => ⟨s.emit [.err "\nAborted!\n".toList], 1, none⟩
  | .complaint c => ⟨s.emit [.err (Console.withoutSequences c.text)], c.exitCode, none⟩
  | .fault f => ⟨s, 1, some f⟩

def run (start : Session) (args : List Text) : Outcome :=
  match Outlets.ofEnvironment start.env with
  | .error e => ⟨start, 1, some ⟨"ValueError".toList, e.message⟩⟩
  | .ok outlets =>
    match Program.body args { start with outlets } with
    | (.ok (), s) => ⟨s, 0, none⟩
    | (.error halt, s) => .ofHalt s halt

end CommentTags.CommandLine
