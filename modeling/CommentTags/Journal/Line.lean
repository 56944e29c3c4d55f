import CommentTags.Decimal
import CommentTags.Journal
import CommentTags.Json.Writer

namespace CommentTags

structure LogLine where
  level : Text
  time : Int
  message : Text
  process : Int
  source : Option Text
  extra : List (Text × Json) := []
  incident : Option Incident := none

structure Stamp where
  time : Int := 0
  process : Int := 0
deriving DecidableEq, Repr

def Stamp.milliseconds? (seconds : Float) : Option Int :=
  let product := seconds * 1000.0
  if product.isFinite then some (Decimal.truncate product) else none

def Incident.json (i : Incident) : Json :=
  .object
    [("type".toList, .text (i.kind.getD "Error".toList)),
      ("message".toList, .text (i.text.getD []))]

namespace LogLine

def ofRecord (stamp : Stamp) (r : Record) : LogLine where
  level := r.level.name
  time := stamp.time
  message := r.message
  process := stamp.process
  source := r.source
  incident := r.incident

def ownMembers (l : LogLine) : List (Text × Json) :=
  [("level".toList, .text l.level), ("time".toList, .int l.time), ("msg".toList, .text l.message),
    ("pid".toList, .int l.process),
    ("module".toList, match l.source with | some s => .text s | none => .null)]

/-- A bound member takes the place of an own one of the same name, and the incident that of a
bound one. -/
def members (l : LogLine) : List (Text × Json) :=
  let bound := l.extra.foldl (fun ms m => Json.put m.1 m.2 ms) l.ownMembers
  match l.incident with
  | some i => Json.put "err".toList i.json bound
  | none => bound

def document (l : LogLine) : Json := .object l.members

def text (l : LogLine) : Text := l.document.line

def serialize (room : Nat) (l : LogLine) : Except Json.Obstacle Text := l.document.serialize room

def plain (l : LogLine) (timeOfDay : Text) : Text :=
  let level := l.level ++ List.replicate (8 - l.level.length) ' '
  " | ".toList.intercalate
    [timeOfDay, level, l.source.getD [] ++ " - ".toList ++ l.message]

end LogLine

end CommentTags
