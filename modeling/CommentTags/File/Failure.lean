import CommentTags.Text.Quoted

namespace CommentTags

inductive Failure where
  | system (code : Int) (reason : Text) (path : Option Text)
  | unspecified (text : Text)
  | lookup (text : Text)
  | undecodable (text : Text)
  | zeroInPath
  | zeroInEncoding
deriving DecidableEq, Repr

namespace Failure

def zero : Char := '\x00'

def fileMissing : Int := 2
def fileExists : Int := 17
def notDirectory : Int := 20
def isDirectory : Int := 21
def nameTooLong : Int := 36
def tooManyLinks : Int := 40

def reasonOf (code : Int) : Text :=
  if code = fileMissing then "No such file or directory".toList
  else if code = fileExists then "File exists".toList
  else if code = notDirectory then "Not a directory".toList
  else if code = isDirectory then "Is a directory".toList
  else if code = nameTooLong then "File name too long".toList
  else if code = tooManyLinks then "Too many levels of symbolic links".toList
  else "Unknown error ".toList ++ Text.ofInt code

def ofCode (code : Int) (path : Text) : Failure := .system code (reasonOf code) (some path)

def unknownEncoding (name : Text) : Failure := .lookup ("unknown encoding: ".toList ++ name)

def notText (name : Text) : Failure :=
  .lookup ('\'' :: name ++
    "' is not a text encoding; use codecs.open() to handle arbitrary codecs".toList)

def isSystem : Failure → Bool
  | .system .. => true
  | .unspecified _ => true
  | _ => false

def isMissing : Failure → Bool
  | .system code _ _ => code == fileMissing
  | _ => false

def path? : Failure → Option Text
  | .system _ _ (some path) => if path.isEmpty then none else some path
  | _ => none

def message : Failure → Text
  | .system code reason path =>
    "[Errno ".toList ++ Text.ofInt code ++ "] ".toList ++ reason ++
      (match path with
      | some path => ": ".toList ++ Text.quoted path
      | none => [])
  | .unspecified text => text
  | .lookup text => text
  | .undecodable text => text
  | .zeroInPath => "embedded null byte".toList
  | .zeroInEncoding => "embedded null character".toList

def reason : Failure → Text
  | f@(.system _ reason _) => if reason.isEmpty then f.message else reason
  | f => f.message

def kindOfCode (code : Int) : String :=
  match code with
  | 1 => "PermissionError"
  | 2 => "FileNotFoundError"
  | 3 => "ProcessLookupError"
  | 4 => "InterruptedError"
  | 10 => "ChildProcessError"
  | 11 => "BlockingIOError"
  | 13 => "PermissionError"
  | 17 => "FileExistsError"
  | 20 => "NotADirectoryError"
  | 21 => "IsADirectoryError"
  | 32 => "BrokenPipeError"
  | 103 => "ConnectionAbortedError"
  | 104 => "ConnectionResetError"
  | 108 => "BrokenPipeError"
  | 110 => "TimeoutError"
  | 111 => "ConnectionRefusedError"
  | 114 => "BlockingIOError"
  | 115 => "BlockingIOError"
  | _ => "OSError"

def kind : Failure → Text
  | .system code _ _ => (kindOfCode code).toList
  | .unspecified _ => "OSError".toList
  | .lookup _ => "LookupError".toList
  | .undecodable _ => "UnicodeError".toList
  | .zeroInPath => "ValueError".toList
  | .zeroInEncoding => "ValueError".toList

end Failure

end CommentTags
