import CommentTags.CommandLine.Option

namespace CommentTags.CommandLine

def lineWidth : Nat := 78

def addWord (width : Nat) (lines : List Text) (word : Text) : List Text :=
  match lines with
  | [] => [word]
  | line :: lines =>
    if line.length + 1 + word.length ≤ width then (line ++ ' ' :: word) :: lines
    else word :: line :: lines

def fill (width : Nat) (s : Text) : List Text :=
  ((Text.fields s).foldl (addWord width) []).reverse

inductive Block where
  | prose (text : Text)
  | verbatim (lines : List Text)

def indented (n : Nat) (line : Text) : Text := List.replicate n ' ' ++ line

def Block.lines : Block → List Text
  | .prose text => (fill (lineWidth - 2) text).map (indented 2)
  | .verbatim lines => lines.map (indented 2)

structure CommandSpec (O : Type) where
  name : Text
  arguments : Text
  description : List Block
  options : List (OptionSpec O)
  helpName : Option Text := none

namespace OptionSpec

def usage (spec : OptionSpec O) : Text :=
  ", ".toList.intercalate spec.names ++
    (match spec.value with
    | some kind => ' ' :: kind.placeholder
    | none => [])

def helpLines (spec : OptionSpec O) (column : Nat) : List Text :=
  match fill (lineWidth - column - 2) spec.description with
  | [] => [indented 2 spec.usage]
  | first :: more =>
    indented 2 (spec.usage ++ List.replicate (column - spec.usage.length) ' ' ++ first) ::
      more.map (indented (column + 2))

end OptionSpec

namespace CommandSpec

def usageLine (spec : CommandSpec O) : Text :=
  "Usage: ".toList ++ spec.name ++ ' ' :: spec.arguments

def help (spec : CommandSpec O) : Text :=
  let column := (spec.options.map (·.usage.length)).foldl max 0 + 2
  let lines := [spec.usageLine, []] ++
    spec.description.flatMap (fun b => b.lines ++ [[]]) ++
    "Options:".toList :: spec.options.flatMap (·.helpLines column)
  lines.flatMap (· ++ ['\n'])

def complaint (spec : CommandSpec O) (message : Text) : Complaint where
  message := message
  isMisuse := true
  usage := spec.usageLine ++ '\n' ::
    ((match spec.helpName with
      | some name => "Try '".toList ++ spec.name ++ ' ' :: name ++ "' for help.\n".toList
      | none => []) ++ ['\n'])

def complaintOf (spec : CommandSpec O) (e : UsageError) : Complaint :=
  match e with
  | .unknownOption _ => spec.complaint e.message
  | _ => { message := e.message, isMisuse := true }

end CommandSpec

end CommentTags.CommandLine
