import CommentTags.File.Access
import CommentTags.Ignore.Pattern
import CommentTags.Path
import CommentTags.Tag.Assembly

/-!
A walk visits a directory tree depth first in the order of its listings, leaves out what is
ignored, and scans every other file. It is a sequence of events and ends at the first failure. The
stack of calls is taken to suffice for any depth of directories.
-/

namespace CommentTags

structure WalkPlan where
  access : FileAccess
  registry : Registry := .standard
  patterns : List IgnorePattern := []
  marker : Text
  encoding : Text := "utf-8".toList

inductive WalkEvent where
  | listed (dir : Text)
  | pruned (path : Text)
  | skipped (path : Text)
  | opened (file : Text)
  | dropped (record : Record)
  | scanned (path : Text) (tags : List Tag)
deriving DecidableEq, Repr

namespace WalkEvent

def tags : WalkEvent → List Tag
  | .scanned _ tags => tags
  | _ => []

def opened? : WalkEvent → Option Text
  | .opened file => some file
  | _ => none

def listed? : WalkEvent → Option Text
  | .listed dir => some dir
  | _ => none

def isScanned : WalkEvent → Bool
  | .scanned .. => true
  | _ => false

def note (level : Level) (message : Text) : Record :=
  { level, source := "issue_summoner.tag.walker".toList, message }

def record? : WalkEvent → Option Record
  | .pruned path => some (note .debug ("Pruned directory ".toList ++ path))
  | .skipped path => some (note .debug ("Skipped ignored file ".toList ++ path))
  | .dropped record => some record
  | .scanned path tags =>
    if tags.isEmpty then none
    else some (note .debug (path ++ ": ".toList ++ Text.ofNat tags.length ++ " tag(s)".toList))
  | _ => none

end WalkEvent

structure WalkRun where
  events : List WalkEvent
  failure : Option Failure := none
deriving DecidableEq, Repr

namespace WalkRun

def nothing : WalkRun := ⟨[], none⟩

def andThen (first second : WalkRun) : WalkRun :=
  match first.failure with
  | some _ => first
  | none => ⟨first.events ++ second.events, second.failure⟩

theorem nothing_andThen (r : WalkRun) : nothing.andThen r = r := by
  simp [andThen, nothing]

theorem andThen_assoc (a b c : WalkRun) : (a.andThen b).andThen c = a.andThen (b.andThen c) := by
  obtain ⟨ea, fa⟩ := a
  obtain ⟨eb, fb⟩ := b
  cases fa <;> cases fb <;> simp [andThen]

def all (runs : List WalkRun) : WalkRun := runs.foldr andThen nothing

def tags (r : WalkRun) : List Tag := r.events.flatMap WalkEvent.tags

def opened (r : WalkRun) : List Text := r.events.filterMap WalkEvent.opened?

def listed (r : WalkRun) : List Text := r.events.filterMap WalkEvent.listed?

def journal (r : WalkRun) : Journal := r.events.filterMap WalkEvent.record?

end WalkRun

def versionControlDir : Text := ".git".toList

/-- The lines of one file; the tags of a file that cannot be read to its end are lost. -/
def scanReading (search : Search) (reading : Reading) : WalkRun :=
  match reading.failure with
  | none =>
    ⟨(scanJournal search reading.lines).map .dropped ++
      [.scanned search.sourceFile (scanLines search reading.lines)], none⟩
  | some failure =>
    let out := (Assembly.advance search .initial 1 reading.lines).1
    ⟨(out.filterMap Yield.record?).map .dropped, some failure⟩

namespace WalkPlan

def scanFile (plan : WalkPlan) (path sourceFile : Text) : WalkRun :=
  match plan.access.read path plan.encoding with
  | .error failure => ⟨[.opened path], some failure⟩
  | .ok reading =>
    let style := plan.registry.styleOf (Path.extension path)
    (⟨[.opened path], none⟩ : WalkRun).andThen
      (scanReading ⟨style, plan.marker, sourceFile⟩ reading)

def prunes (plan : WalkPlan) (name path : Text) : Bool :=
  name == versionControlDir || isIgnored plan.patterns path true

def visitEntry (plan : WalkPlan) (enter : (dir path : Text) → WalkRun) (dir path : Text)
    (e : Entry) : WalkRun :=
  let file := Path.join dir e.name
  let path := Path.join path e.name
  if e.isDir then
    if plan.prunes e.name path then ⟨[.pruned path], none⟩ else enter file path
  else if isIgnored plan.patterns path false then ⟨[.skipped path], none⟩
  else plan.scanFile file path

/-- Visits a directory, which has the given path below the root. -/
def visitDir (plan : WalkPlan) : (depth : Nat) → (dir path : Text) → WalkRun
  | 0, dir, _ => ⟨[.listed dir], some (.ofCode Failure.nameTooLong dir)⟩
  | depth + 1, dir, path =>
    match plan.access.list dir with
    | .error failure => ⟨[.listed dir], some failure⟩
    | .ok entries =>
      (⟨[.listed dir], none⟩ : WalkRun).andThen
        (.all (entries.map (visitEntry plan (visitDir plan depth) dir path)))

def run (plan : WalkPlan) (root : Text) : WalkRun := plan.visitDir plan.access.depth root []

end WalkPlan

structure ScanAborted where
  path : Text
  failure : Failure
  partialTags : List Tag
deriving DecidableEq, Repr

def ScanAborted.message (e : ScanAborted) : Text :=
  "Scan aborted at ".toList ++ e.path ++ ": ".toList ++ e.failure.reason

inductive WalkError where
  | aborted (e : ScanAborted)
  | undecodable (failure : Failure)
deriving DecidableEq, Repr

def WalkError.kind : WalkError → Text
  | .aborted _ => "ScanError".toList
  | .undecodable failure => failure.kind

def WalkError.message : WalkError → Text
  | .aborted e => e.message
  | .undecodable failure => failure.message

/-- The result of a run that started at a root: a failure without a path of its own is put down
to the last file that was opened. -/
def WalkRun.result (r : WalkRun) (root : Text) : Except WalkError (List Tag) :=
  match r.failure with
  | none => .ok r.tags
  | some failure =>
    if failure.isSystem then
      .error (.aborted ⟨failure.path?.getD (r.opened.getLast?.getD root), failure, r.tags⟩)
    else .error (.undecodable failure)

def walk (plan : WalkPlan) (root : Text) : Except WalkError (List Tag) :=
  (plan.run root).result root

def WalkPlan.journalOf (plan : WalkPlan) (root : Text) (run : WalkRun) : Journal :=
  let summary := WalkEvent.note .info
    ("Scanned ".toList ++ Text.ofNat (run.events.countP WalkEvent.isScanned) ++
      " files under ".toList ++ root ++ ", found ".toList ++ Text.ofNat run.tags.length ++
      ' ' :: plan.marker ++ " tag(s)".toList)
  run.journal ++ if run.failure.isNone then [summary] else []

def walkJournal (plan : WalkPlan) (root : Text) : Journal := plan.journalOf root (plan.run root)

end CommentTags
