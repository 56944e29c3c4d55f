import CommentTags.CommandLine.Help
import CommentTags.File.Local
import CommentTags.Guard
import CommentTags.Ignore.File
import CommentTags.Report
import CommentTags.Report.Table
import CommentTags.Walk

namespace CommentTags.CommandLine

inductive ScanOption where
  | path
  | marker
  | ignoreFile
  | format
  | save
  | showPatterns
  | failOnTags
  | verbose
  | help
deriving DecidableEq, Repr

inductive Format where
  | table
  | json
deriving DecidableEq, Repr

namespace Format

def all : List Format := [.table, .json]

def name : Format → Text
  | .table => "table".toList
  | .json => "json".toList

def ofName? (s : Text) : Option Format := all.find? (·.name = s)

end Format

def scanSpec : CommandSpec ScanOption where
  name := "summon scan".toList
  arguments := "[OPTIONS]".toList
  helpName := some "--help".toList
  description :=
    [.prose "Scan source files for actionable comments and report them.".toList,
      .prose ("Walks the project, skipping the .git directory and anything matched by the " ++
        "ignore file, and collects every comment that carries the tag. The rest of the tag's " ++
        "line becomes the title. Following lines of the same comment become the " ++
        "description.").toList,
      .verbatim (["Examples:",
        "  summon scan                         # @TODO tags under the current directory",
        "  summon scan -p ../service -t @FIXME",
        "  summon scan --format json --save .summoner/report.json"].map String.toList),
      .verbatim (["Comment syntax is chosen by file extension:",
        "  C-style (// and /* */): .c .cpp .cs .go .java .js .jsx .kt .m .php .rs .scala .swift " ++
          ".ts .tsx",
        "  Python (# and triple quotes): .py",
        "  Markdown (<!-- -->): .md",
        "  Everything else: #"].map String.toList)]
  options :=
    [⟨.path, ["-p".toList, "--path".toList], some .directory,
        "Path to your local git project (default: current directory)".toList⟩,
      ⟨.marker, ["-t".toList, "--tag".toList], some .text,
        "Actionable comment tag to search for (default: @TODO)".toList⟩,
      ⟨.ignoreFile, ["-g".toList, "--gitignore-path".toList], some .file,
        "Path to .gitignore file (default: <path>/.gitignore)".toList⟩,
      ⟨.format, ["--format".toList], some (.choice (Format.all.map Format.name)),
        "Output format".toList⟩,
      ⟨.save, ["--save".toList], some .newFile,
        "Also write the JSON report to this file".toList⟩,
      ⟨.showPatterns, ["--show-patterns".toList], none,
        "Print the compiled ignore patterns".toList⟩,
      ⟨.failOnTags, ["--fail-on-tags".toList], none, "Exit 2 if any tag is found".toList⟩,
      ⟨.verbose, ["-v".toList, "--verbose".toList], none, "Show debug logging".toList⟩,
      ⟨.help, ["--help".toList], none, "Show this message and exit.".toList⟩]

structure ScanRequest where
  path : Option Text := none
  marker : Option Text := none
  ignoreFile : Option Text := none
  format : Format := .table
  save : Option Text := none
  showPatterns : Bool := false
  failOnTags : Bool := false
  verbose : Bool := false
deriving DecidableEq, Repr

def ScanRequest.ofParsed (p : Parsed ScanOption) : ScanRequest where
  path := p.value? .path
  marker := p.value? .marker
  ignoreFile := p.value? .ignoreFile
  format := ((p.value? .format).bind Format.ofName?).getD .table
  save := p.value? .save
  showPatterns := p.has .showPatterns
  failOnTags := p.has .failOnTags
  verbose := p.has .verbose

def tagsFoundCode : Int := 2

namespace Scan

def markupFault (e : Console.MarkupError) : Fault := ⟨e.kind, e.message⟩

def printMarkup (markup : Text) : Action Unit := do
  let width := (← Action.session).host.width
  .print (← .orFault markupFault (Console.printed width markup))

def nonEmpty (s : Option Text) : Option Text := s.filter (fun s => !s.isEmpty)

def rootOf (r : ScanRequest) (disk : Disk) : Text := (nonEmpty r.path).getD disk.cwdPath

def loadSettings (root : Text) : Action Settings := do
  let s ← Action.session
  let (journal, settings) := Settings.load s.disk s.env root s.host.readingRoom
  .noteAll journal
  .orFault (fun flaw => ⟨flaw.kind, flaw.message⟩) settings

def compilePatterns (path encoding : Text) : Action (List IgnorePattern) := do
  let access := (← Action.session).access
  let (journal, patterns) := IgnoreFile.patterns access path encoding
  .noteAll journal
  .orFault (fun e => ⟨e.kind, e.message⟩) patterns

def patternLine (p : IgnorePattern) : Text :=
  "Ignore Pattern: ".toList ++ Console.escape p.raw ++
    if p.negated then " (negation not applied)".toList else []

def printPatterns : List IgnorePattern → Action Unit
  | [] => pure ()
  | p :: ps => do
    printMarkup (patternLine p)
    printPatterns ps

def startNote (root marker : Text) : Record where
  level := .debug
  source := "issue_summoner.commands.scan".toList
  message := "Scanning ".toList ++ root ++ " for ".toList ++ marker

def findTags (root marker encoding : Text) (patterns : List IgnorePattern) :
    Action (List Tag) := do
  let plan : WalkPlan :=
    { access := (← Action.session).access, patterns, marker, encoding }
  let run := plan.run root
  .noteAll (plan.journalOf root run)
  .orFault (fun e => ⟨e.kind, e.message⟩) (run.result root)

def collect (r : ScanRequest) : Action Report := do
  let root := rootOf r (← Action.session).disk
  let settings ← loadSettings root
  let marker := (nonEmpty r.marker).getD settings.marker
  let ignorePath := r.ignoreFile.getD (Path.join root settings.ignoreFile)
  let patterns ← compilePatterns ignorePath settings.encoding
  if r.showPatterns then printPatterns patterns
  .note (startNote root marker)
  let tags ← findTags root marker settings.encoding patterns
  return ⟨root, marker, tags⟩

def printTable (report : Report) : Action Unit := do
  let table := Report.table report.marker report.tags
  .print (← .orFault markupFault (table.text (← Action.session).host.width))
  printMarkup ("Found ".toList ++ Text.ofNat report.tags.length ++ ' ' ::
    Console.escape report.marker ++ " tag(s)".toList)

def printNothing (report : Report) : Action Unit :=
  printMarkup ("[success]OK:[/success] No ".toList ++ Console.escape report.marker ++
    " tags found".toList)

def present (format : Format) (report : Report) : Action Unit :=
  match format with
  | .json => .print report.text
  | .table => if report.tags.isEmpty then printNothing report else printTable report

def save (path : Text) (report : Report) : Action Unit := do
  let saved ← .orFault Failure.fault (report.save (← Action.session).disk path)
  .modify ({ · with disk := saved.disk })
  .note (Report.savedNote saved.path)
  .printError (Console.withoutSequences ("Report saved to ".toList ++ saved.path) ++ ['\n'])

def perform (r : ScanRequest) : Action Unit := do
  if r.verbose then .modify (fun s => (s.act (.setConsoleLevel "DEBUG".toList)).1)
  let report ← collect r
  present r.format report
  match nonEmpty r.save with
  | some path => save path report
  | none => pure ()
  if r.failOnTags && !report.tags.isEmpty then .halt (.quit tagsFoundCode)

def guarded (r : ScanRequest) : Action Unit := Guard.guarded "scan".toList (perform r)

end Scan

def ScanRequest.ofArguments (args : List Text) : Action ScanRequest := do
  match parse scanSpec.options true args with
  | .error e => .halt (.complaint (scanSpec.complaintOf e))
  | .ok parsed =>
    if parsed.has .help then
      .print scanSpec.help
      .halt (.exit 0)
    else
      match parsed.problem? scanSpec.options (← Action.session).disk with
      | some (option, problem) =>
        .halt (.complaint (scanSpec.complaint
          ("Invalid value for ".toList ++ option.hint ++ ": ".toList ++ problem)))
      | none =>
        match parsed.rest with
        | [] => return .ofParsed parsed
        | [arg] =>
          .halt (.complaint (scanSpec.complaint
            ("Got unexpected extra argument (".toList ++ arg ++ [')'])))
        | args =>
          .halt (.complaint (scanSpec.complaint
            ("Got unexpected extra arguments (".toList ++ Text.spaced args ++ [')'])))

end CommentTags.CommandLine
