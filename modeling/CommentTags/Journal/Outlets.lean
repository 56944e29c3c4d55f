import CommentTags.Journal.Line
import CommentTags.Settings
import CommentTags.Text.Uppercase

namespace CommentTags

inductive LevelError where
  | unknown (name : Text)
  | negative (n : Int)
deriving DecidableEq, Repr

def LevelError.message : LevelError → Text
  | .unknown name => "Level '".toList ++ name ++ "' does not exist".toList
  | .negative n =>
    "Invalid level value, it should be a positive integer, not: ".toList ++ Text.ofInt n

namespace Level

def ofName (name : Text) : Except LevelError Level :=
  match ofName? name with
  | some level => .ok level
  | none => .error (.unknown name)

def ofAnyCase (name : Text) : Except LevelError Level := ofName name.upper

def ofRank : Int → Except LevelError Level
  | .ofNat n => .ok (.rank n)
  | .negSucc n => .error (.negative (.negSucc n))

end Level

inductive LogStyle where
  | plain
  | json
deriving DecidableEq, Repr

structure Outlets where
  style : LogStyle := .plain
  console : Option Level := none
  file : Option Text := none
deriving DecidableEq, Repr

namespace Outlets

def fileLevel : Level := .debug

def levelVariable : Text := programName ++ "_LOG_LEVEL".toList
def styleVariable : Text := programName ++ "_LOG_JSON".toList
def fileVariable : Text := programName ++ "_LOG_FILE".toList

def variableNames : List Text := [levelVariable, styleVariable, fileVariable]

def ofEnvironment (env : Environment) : Except LevelError Outlets := do
  let level ← Level.ofAnyCase ((env.lookup levelVariable).getD "WARNING".toList)
  return {
    style := if env.lookup styleVariable = some ['1'] then .json else .plain
    console := some level
    file := (env.lookup fileVariable).filter (fun path => !path.isEmpty) }

def isClosed (o : Outlets) : Bool := o.console.isNone && o.file.isNone

def shows (o : Outlets) (level : Level) : Bool :=
  match o.console with
  | some least => least.severity ≤ level.severity
  | none => false

def keeps (o : Outlets) (level : Level) : Bool :=
  o.file.isSome && fileLevel.severity ≤ level.severity

end Outlets

inductive LogAction where
  | write (level : Except LevelError Level) (line : LogLine)
  | setConsoleLevel (name : Text)

structure Reaction where
  outlets : Outlets
  shown : List LogLine := []
  kept : List LogLine := []
  refusal : Option LevelError := none

namespace Outlets

/-- The reaction to an action. Where no line can go, its level does not matter; after a threshold
that does not exist the console shows nothing. -/
def act (o : Outlets) : LogAction → Reaction
  | .write level line =>
    if o.isClosed then { outlets := o }
    else
      match level with
      | .error e => { outlets := o, refusal := some e }
      | .ok level =>
        let line := { line with level := level.name }
        { outlets := o
          shown := if o.shows level then [line] else []
          kept := if o.keeps level then [line] else [] }
  | .setConsoleLevel name =>
    match Level.ofAnyCase name with
    | .ok level => { outlets := { o with console := some level } }
    | .error e => { outlets := { o with console := none }, refusal := some e }

end Outlets

end CommentTags
