import CommentTags.Session

namespace CommentTags.Guard

def errorLog : Text := Path.join Settings.ownDir "error.log".toList

def ruler : Text := List.replicate 80 '=' ++ ['\n']

def entry (s : Session) (command : Text) (f : Fault) : Text :=
  '\n' :: (ruler ++ '[' :: s.clock ++ "] Error in command: ".toList ++ command ++ '\n' :: ruler ++
    f.kind ++ ": ".toList ++ f.message ++ "\n\n".toList ++ s.trace ++ ruler ++ ['\n'])

def record (command : Text) (f : Fault) : Record where
  level := .error
  source := "issue_summoner.utils.error_handler".toList
  message := "Command '".toList ++ command ++ "' failed: ".toList ++ f.message
  incident := some ⟨some f.kind, some f.message⟩

def complaint (f : Fault) : Complaint where
  message :=
    f.kind ++ ": ".toList ++ f.message ++ "\n\nFull traceback logged to: ".toList ++ errorLog
  cause := some f

def file (command : Text) (f : Fault) : Action Unit := do
  .onDisk (·.ensureDir Settings.ownDir)
  .note (record command f)
  let entry := entry (← Action.session) command f
  .onDisk (·.writeBytes true errorLog (Utf8.encode entry))

def handle (command : Text) (f : Fault) : Action α := do
  file command f
  .halt (.complaint (complaint f))

def guarded (command : Text) (body : Action α) : Action α := fun s =>
  match body s with
  | (.error (.fault f), s) => handle command f s
  | result => result

end CommentTags.Guard
