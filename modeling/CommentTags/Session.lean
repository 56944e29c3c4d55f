import CommentTags.File.Local
import CommentTags.Halt
import CommentTags.Journal.Outlets

/-!
A session is one run of the program: what it has printed and logged so far, and the disk that it
leaves behind. Actions take one session to the next, until one of them halts. The standard output is
taken to accept every text.
-/

namespace CommentTags

inductive Emission where
  | out (text : Text)
  | err (text : Text)
  | log (line : LogLine)

namespace Emission

def out? : Emission → Option Text
  | .out text => some text
  | _ => none

def err? : Emission → Option Text
  | .err text => some text
  | _ => none

def log? : Emission → Option LogLine
  | .log line => some line
  | _ => none

end Emission

structure Host where
  codecs : Codecs := {}
  /-- How many JSON containers in one another the stack of calls leaves room for. -/
  readingRoom : Nat := Json.usualRoom
  writingRoom : Nat := Json.usualRoom
  /-- The cells of a line of the console. -/
  width : Nat := 200
  width_pos : 0 < width := by decide

def Host.usual : Host := {}

def LogLine.bytes (room : Nat) (l : LogLine) : List UInt8 :=
  match l.serialize room with
  | .ok text => Utf8.encode (text ++ ['\n'])
  | .error _ => []

theorem LogLine.bytes_of_serialize {room : Nat} {l : LogLine} {text : Text}
    (h : l.serialize room = .ok text) : l.bytes room = Utf8.encode (text ++ ['\n']) := by
  rw [bytes, h]

theorem LogLine.bytes_of_obstacle {room : Nat} {l : LogLine} {obstacle : Json.Obstacle}
    (h : l.serialize room = .error obstacle) : l.bytes room = [] := by
  rw [bytes, h]

structure Session where
  disk : Disk
  outlets : Outlets := {}
  env : Environment := []
  stamp : Stamp := {}
  clock : Text := []
  /-- What the surroundings know about the way to a failure. -/
  trace : Text := []
  emitted : List Emission := []
  host : Host := .usual

namespace Session

def access (s : Session) : FileAccess := s.disk.access false s.host.codecs

def out (s : Session) : Text := (s.emitted.filterMap Emission.out?).flatten

def err (s : Session) : Text := (s.emitted.filterMap Emission.err?).flatten

def log (s : Session) : List LogLine := s.emitted.filterMap Emission.log?

def emit (s : Session) (es : List Emission) : Session := { s with emitted := s.emitted ++ es }

theorem out_emit (s : Session) (es : List Emission) :
    (s.emit es).out = s.out ++ (es.filterMap Emission.out?).flatten := by
  simp [emit, out]

/-- Appends a line to the log file, which is opened before the line is made. If either cannot be
done, the line is lost. -/
def keep (s : Session) (line : LogLine) : Session :=
  match s.outlets.file with
  | none => s
  | some path =>
    match s.disk.writeBytes true path (line.bytes s.host.writingRoom) with
    | .ok disk => { s with disk }
    | .error _ => s

def act (s : Session) (action : LogAction) : Session × Option LevelError :=
  let reaction := s.outlets.act action
  let shown := { s with outlets := reaction.outlets }.emit (reaction.shown.map .log)
  (reaction.kept.foldl keep shown, reaction.refusal)

def note (s : Session) (r : Record) : Session :=
  (s.act (.write (.ok r.level) (.ofRecord s.stamp r))).1

end Session

def Action (α : Type) := Session → Except Halt α × Session

namespace Action

instance : Monad Action where
  pure a := fun s => (.ok a, s)
  bind x f := fun s =>
    match x s with
    | (.ok a, s) => f a s
    | (.error h, s) => (.error h, s)

theorem bind_ok {x : Action α} {s t : Session} {a : α} (h : x s = (.ok a, t)) (f : α → Action β) :
    (x >>= f) s = f a t := by
  change (match x s with | (.ok a, s) => f a s | (.error h, s) => (.error h, s)) = f a t
  rw [h]

theorem bind_error {x : Action α} {s t : Session} {e : Halt} (h : x s = (.error e, t))
    (f : α → Action β) : (x >>= f) s = (.error e, t) := by
  change (match x s with | (.ok a, s) => f a s | (.error h, s) => (.error h, s)) = (.error e, t)
  rw [h]

def halt (h : Halt) : Action α := fun s => (.error h, s)

def session : Action Session := fun s => (.ok s, s)

def modify (f : Session → Session) : Action Unit := fun s => (.ok (), f s)

def orFault (fault : ε → Fault) : Except ε α → Action α
  | .ok a => pure a
  | .error e => halt (.fault (fault e))

def print (text : Text) : Action Unit := modify (·.emit [.out text])

def printError (text : Text) : Action Unit := modify (·.emit [.err text])

def note (r : Record) : Action Unit := modify (·.note r)

def noteAll (journal : Journal) : Action Unit := modify (journal.foldl Session.note ·)

def onDisk (f : Disk → Except Failure Disk) : Action Unit := do
  let disk ← orFault Failure.fault (f (← session).disk)
  modify ({ · with disk })

end Action

end CommentTags
