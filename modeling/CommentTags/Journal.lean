import CommentTags.Journal.Level

namespace CommentTags

structure Incident where
  kind : Option Text
  text : Option Text
deriving DecidableEq, Repr

structure Record where
  level : Level
  source : Text
  message : Text
  incident : Option Incident := none
deriving DecidableEq, Repr

abbrev Journal := List Record

end CommentTags
