import CommentTags.Journal.Outlets

/-!
The handlers that take log lines where they go. Each is installed under a number of its own, by
which it can be removed again; no number is given out twice. The console has a handler whose number
is remembered, and to move its threshold that handler is removed and another one installed.
-/

namespace CommentTags

inductive Sink where
  | console
  | file (path : Text)
deriving DecidableEq, Repr

structure Handler where
  number : Nat
  sink : Sink
  least : Level
deriving DecidableEq, Repr

structure Handlers where
  installed : List Handler
  next : Nat
  console : Option Nat
deriving DecidableEq, Repr

namespace Handlers

def initial : Handlers := ⟨[⟨0, .console, .debug⟩], 1, none⟩

def clear (hs : Handlers) : Handlers := { hs with installed := [] }

def remove? (hs : Handlers) (number : Nat) : Option Handlers :=
  if hs.installed.any (·.number = number) then
    some { hs with installed := hs.installed.filter (·.number ≠ number) }
  else none

/-- Installs a handler. Its number is used up even if it takes no level that there is. -/
def add (hs : Handlers) (sink : Sink) (level : Except LevelError Level) :
    Handlers × Except LevelError Nat :=
  match level with
  | .ok least =>
    ({ hs with installed := hs.installed ++ [⟨hs.next, sink, least⟩], next := hs.next + 1 },
      .ok hs.next)
  | .error e => ({ hs with next := hs.next + 1 }, .error e)

def addConsole (hs : Handlers) (name : Text) : Handlers × Option LevelError :=
  match hs.add .console (Level.ofAnyCase name) with
  | (hs, .ok number) => ({ hs with console := some number }, none)
  | (hs, .error e) => (hs, some e)

def ofEnvironment (env : Environment) : Except LevelError Handlers :=
  match initial.clear.addConsole ((env.lookup Outlets.levelVariable).getD "WARNING".toList) with
  | (_, some e) => .error e
  | (hs, none) =>
    match (env.lookup Outlets.fileVariable).filter (fun path => !path.isEmpty) with
    | some path => .ok (hs.add (.file path) (.ok Outlets.fileLevel)).1
    | none => .ok hs

def setConsoleLevel (hs : Handlers) (name : Text) : Handlers × Option LevelError :=
  let hs :=
    match hs.console with
    | some number => (hs.remove? number).getD hs
    | none => hs
  hs.addConsole name

def deliver (hs : Handlers) (level : Level) (line : LogLine) : List (Sink × LogLine) :=
  (hs.installed.filter (fun h => h.least.severity ≤ level.severity)).map (fun h => (h.sink, line))

def act (hs : Handlers) : LogAction → Handlers × List (Sink × LogLine) × Option LevelError
  | .write level line =>
    if hs.installed.isEmpty then (hs, [], none)
    else
      match level with
      | .ok level => (hs, hs.deliver level { line with level := level.name }, none)
      | .error e => (hs, [], some e)
  | .setConsoleLevel name =>
    let (hs, refusal) := hs.setConsoleLevel name
    (hs, [], refusal)

end Handlers

end CommentTags
