import CommentTags.Text

namespace CommentTags

inductive Level where
  | trace
  | debug
  | info
  | success
  | warning
  | error
  | critical
  | rank (n : Nat)
deriving DecidableEq, Repr

namespace Level

def named : List Level := [.trace, .debug, .info, .success, .warning, .error, .critical]

def severity : Level → Nat
  | .trace => 5
  | .debug => 10
  | .info => 20
  | .success => 25
  | .warning => 30
  | .error => 40
  | .critical => 50
  | .rank n => n

def name : Level → Text
  | .trace => "TRACE".toList
  | .debug => "DEBUG".toList
  | .info => "INFO".toList
  | .success => "SUCCESS".toList
  | .warning => "WARNING".toList
  | .error => "ERROR".toList
  | .critical => "CRITICAL".toList
  | .rank n => "Level ".toList ++ Text.ofNat n

def ofName? (s : Text) : Option Level := named.find? (·.name = s)

end Level

end CommentTags
