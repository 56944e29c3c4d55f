import CommentTags.File.Failure

namespace CommentTags

structure Fault where
  kind : Text
  message : Text
deriving DecidableEq, Repr

def Failure.fault (f : Failure) : Fault := ⟨f.kind, f.message⟩

structure Complaint where
  message : Text
  isMisuse : Bool := false
  usage : Text := []
  cause : Option Fault := none
deriving DecidableEq, Repr

namespace Complaint

def failureCode : Int := 1
def misuseCode : Int := 2

def exitCode (c : Complaint) : Int := if c.isMisuse then misuseCode else failureCode

def text (c : Complaint) : Text := c.usage ++ "Error: ".toList ++ c.message ++ ['\n']

end Complaint

inductive Halt where
  | exit (code : Int)
  | quit (code : Int)
  | abort
  | complaint (c : Complaint)
  | interrupt (f : Fault)
  | fault (f : Fault)
deriving DecidableEq, Repr

end CommentTags
