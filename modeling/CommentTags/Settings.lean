import CommentTags.File.Disk
import CommentTags.Journal
import CommentTags.Json.Reader

namespace CommentTags

structure Settings where
  marker : Text
  ignoreFile : Text
  encoding : Text
deriving DecidableEq, Repr

abbrev Environment := List (Text × Text)

def programName : Text := "ISSUE_SUMMONER".toList

inductive Setting where
  | marker
  | ignoreFile
  | encoding
deriving DecidableEq, Repr

namespace Setting

def all : List Setting := [.marker, .ignoreFile, .encoding]

def key : Setting → Text
  | .marker => "annotation".toList
  | .ignoreFile => "ignore_file".toList
  | .encoding => "encoding".toList

def variableName (s : Setting) : Text :=
  programName ++ "_SCAN_".toList ++
    match s with
    | .marker => "ANNOTATION".toList
    | .ignoreFile => "IGNORE_FILE".toList
    | .encoding => "ENCODING".toList

def ofKey? (key : Text) : Option Setting := all.find? (·.key = key)

theorem ofKey?_key (s : Setting) : ofKey? s.key = some s := by
  cases s <;> decide

end Setting

namespace Settings

def standard : Settings := ⟨"@TODO".toList, ".gitignore".toList, "utf-8".toList⟩

def get (s : Settings) : Setting → Text
  | .marker => s.marker
  | .ignoreFile => s.ignoreFile
  | .encoding => s.encoding

def set (s : Settings) (setting : Setting) (value : Text) : Settings :=
  match setting with
  | .marker => { s with marker := value }
  | .ignoreFile => { s with ignoreFile := value }
  | .encoding => { s with encoding := value }

theorem get_set (s : Settings) (setting other : Setting) (value : Text) :
    (s.set setting value).get other = if other = setting then value else s.get other := by
  cases setting <;> cases other <;> rfl

def ownDir : Text := ".summoner".toList

def fileName : Text := "config.json".toList

def path (root : Text) : Text := Path.tidy (Path.join (Path.join root ownDir) fileName)

def note (level : Level) (message : Text) : Record :=
  { level, source := "issue_summoner.config_runtime".toList, message }

def merge (s : Settings) : List (Text × Json) → Journal × Settings
  | [] => ([], s)
  | (key, value) :: rest =>
    match Setting.ofKey? key, value with
    | some setting, .text v => merge (s.set setting v) rest
    | _, _ =>
      let (journal, merged) := merge s rest
      (note .warning ("Ignoring unknown or mistyped config key scan.".toList ++ key) :: journal,
        merged)

def scanSection (document : Json) : List (Text × Json) :=
  match document.member? "scan".toList with
  | some (.object members) => members
  | _ => []

inductive FileProblem where
  | unreadable (failure : Failure)
  | malformed (problem : Json.Problem) (left : Nat) (text : Text)
deriving DecidableEq, Repr

def FileProblem.message : FileProblem → Text
  | .unreadable failure => failure.message
  | .malformed problem left text => (Json.Fault.malformed problem left).message text

inductive Flaw where
  | illFormed (e : Utf8.IllFormed)
  | hugeInteger (digits : Nat)
  | tooDeep (container : Json.Container)
deriving DecidableEq, Repr

def Flaw.message : Flaw → Text
  | .illFormed e => e.message
  | .hugeInteger digits => (Json.Fault.hugeInteger digits).message []
  | .tooDeep container => (Json.Fault.tooDeep container).message []

def Flaw.kind : Flaw → Text
  | .illFormed _ => "UnicodeDecodeError".toList
  | .hugeInteger _ => "ValueError".toList
  | .tooDeep _ => "RecursionError".toList

def readDocument (disk : Disk) (path : Text) (room : Nat := Json.usualRoom) :
    Except Flaw (Except FileProblem (Option Json)) :=
  match disk.pathExists path with
  | .error failure => .ok (.error (.unreadable failure))
  | .ok false => .ok (.ok none)
  | .ok true =>
    match disk.readBytes path with
    | .error failure => .ok (.error (.unreadable failure))
    | .ok bytes =>
      match Utf8.strict bytes with
      | .error e => .error (.illFormed e)
      | .ok text =>
        let text := text.unifyLineEnds
        match Json.parse text room with
        | .ok document => .ok (.ok (some document))
        | .error (.malformed problem left) => .ok (.error (.malformed problem left text))
        | .error (.hugeInteger digits) => .error (.hugeInteger digits)
        | .error (.tooDeep container) => .error (.tooDeep container)

/-- Variables of the environment override all else, even when they are empty. -/
def override (env : Environment) (s : Settings) : Settings :=
  Setting.all.foldl (fun s setting =>
    match env.lookup setting.variableName with
    | some value => s.set setting value
    | none => s) s

def load (disk : Disk) (env : Environment) (root : Text) (room : Nat := Json.usualRoom) :
    Journal × Except Flaw Settings :=
  let path := path root
  match readDocument disk path room with
  | .error flaw => ([], .error flaw)
  | .ok (.error problem) =>
    ([note .warning ("Could not load config file from ".toList ++ path ++ ": ".toList ++
        problem.message),
      note .info "Continuing with default configuration".toList], .ok (standard.override env))
  | .ok (.ok none) => ([], .ok (standard.override env))
  | .ok (.ok (some document)) =>
    let (journal, merged) := standard.merge (scanSection document)
    (journal, .ok (merged.override env))

end Settings

end CommentTags
