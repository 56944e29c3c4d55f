import CommentTags.File.Access
import CommentTags.Ignore.Pattern
import CommentTags.Journal

namespace CommentTags

inductive IgnoreError where
  | unreadable (path : Text) (failure : Failure)
  | badLine (e : IgnoreLineError)
  | undecodable (failure : Failure)
deriving DecidableEq, Repr

def IgnoreError.kind : IgnoreError → Text
  | .unreadable .. => "IgnoreFileError".toList
  | .badLine _ => "IgnorePatternError".toList
  | .undecodable failure => failure.kind

def IgnoreError.message : IgnoreError → Text
  | .unreadable path failure =>
    "Could not read ignore file ".toList ++ path ++ ": ".toList ++ failure.reason
  | .badLine e => e.message
  | .undecodable failure => failure.message

namespace IgnoreFile

def note (message : Text) : Record :=
  { level := .debug, source := "issue_summoner.tag.ignore".toList, message }

def lines (access : FileAccess) (path encoding : Text) : Except Failure (List Text) :=
  match access.read path encoding with
  | .error failure => .error failure
  | .ok ⟨lines, none⟩ => .ok lines
  | .ok ⟨_, some failure⟩ => .error failure

def patterns (access : FileAccess) (path encoding : Text) :
    Journal × Except IgnoreError (List IgnorePattern) :=
  if path.isEmpty then ([], .ok [])
  else
    match lines access path encoding with
    | .error failure =>
      if failure.isMissing then
        ([note ("No ignore file at ".toList ++ path ++ ", nothing will be ignored".toList)], .ok [])
      else if failure.isSystem then ([], .error (.unreadable path failure))
      else ([], .error (.undecodable failure))
    | .ok lines =>
      match IgnorePattern.ofLines lines with
      | .error e => ([], .error (.badLine e))
      | .ok ps =>
        ([note ("Compiled ".toList ++ Text.ofNat ps.length ++ " ignore patterns from ".toList ++
          path)], .ok ps)

end IgnoreFile

end CommentTags
