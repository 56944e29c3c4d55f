import CommentTags.File.Disk
import CommentTags.Halt

/-!
The options of a command: what they are called, what values they take, and how they are read from
the arguments. A letter behind a single dash is an option, and several such options can share the
dash; a word behind two dashes is one. A double dash by itself ends the options.
-/

namespace CommentTags.CommandLine

inductive ValueKind where
  | text
  | directory
  | file
  | newFile
  | choice (names : List Text)
deriving DecidableEq, Repr

namespace ValueKind

def placeholder : ValueKind → Text
  | .text => "TEXT".toList
  | .directory => "DIRECTORY".toList
  | .file => "FILE".toList
  | .newFile => "FILE".toList
  | .choice names => '[' :: (['|'].intercalate names ++ [']'])

def problem? (disk : Disk) (value : Text) : ValueKind → Option Text
  | .text => none
  | .directory =>
    match disk.node value with
    | .error _ => some ("Directory ".toList ++ Text.quoted value ++ " does not exist.".toList)
    | .ok (.dir _) => none
    | .ok _ => some ("Directory ".toList ++ Text.quoted value ++ " is a file.".toList)
  | .file =>
    match disk.node value with
    | .error _ => some ("File ".toList ++ Text.quoted value ++ " does not exist.".toList)
    | .ok (.dir _) => some ("File ".toList ++ Text.quoted value ++ " is a directory.".toList)
    | .ok _ => none
  | .newFile =>
    match disk.node value with
    | .ok (.dir _) => some ("File ".toList ++ Text.quoted value ++ " is a directory.".toList)
    | _ => none
  | .choice names =>
    if names.contains value then none
    else some (Text.quoted value ++ " is not one of ".toList ++
      ", ".toList.intercalate (names.map Text.quoted) ++ ['.'])

end ValueKind

structure OptionSpec (O : Type) where
  option : O
  names : List Text
  value : Option ValueKind := none
  description : Text
deriving DecidableEq, Repr

structure Given (O : Type) where
  option : O
  value : Option Text
deriving DecidableEq, Repr

inductive UsageError where
  | unknownOption (name : Text)
  | valueMissing (name : Text)
  | valueUnwanted (name : Text)
deriving DecidableEq, Repr

def UsageError.message : UsageError → Text
  | .unknownOption name => "No such option ".toList ++ Text.quoted name ++ ['.']
  | .valueMissing name => "Option ".toList ++ Text.quoted name ++ " requires an argument.".toList
  | .valueUnwanted name =>
    "Option ".toList ++ Text.quoted name ++ " does not take a value.".toList

structure OptionReading (O : Type) where
  given : List (Given O)
  takesNext : Bool := false

def OptionSpec.find? (specs : List (OptionSpec O)) (name : Text) : Option (OptionSpec O) :=
  specs.find? (·.names.contains name)

def readLetters (specs : List (OptionSpec O)) (next : Option Text) :
    Text → Except UsageError (OptionReading O)
  | [] => .ok ⟨[], false⟩
  | c :: cs =>
    match OptionSpec.find? specs ['-', c] with
    | none => .error (.unknownOption ['-', c])
    | some spec =>
      match spec.value with
      | none =>
        (readLetters specs next cs).map
          (fun r => { r with given := ⟨spec.option, none⟩ :: r.given })
      | some _ =>
        if !cs.isEmpty then .ok ⟨[⟨spec.option, some cs⟩], false⟩
        else
          match next with
          | some value => .ok ⟨[⟨spec.option, some value⟩], true⟩
          | none => .error (.valueMissing ['-', c])

def isWordName (name : Text) : Bool := 2 < name.length

def readOption (specs : List (OptionSpec O)) (arg : Text) (next : Option Text) :
    Except UsageError (OptionReading O) :=
  let (name, attached) := Text.cut '=' arg
  match if isWordName name then OptionSpec.find? specs name else none with
  | some spec =>
    match spec.value, attached, next with
    | none, none, _ => .ok ⟨[⟨spec.option, none⟩], false⟩
    | none, some _, _ => .error (.valueUnwanted name)
    | some _, some value, _ => .ok ⟨[⟨spec.option, some value⟩], false⟩
    | some _, none, some value => .ok ⟨[⟨spec.option, some value⟩], true⟩
    | some _, none, none => .error (.valueMissing name)
  | none =>
    match arg with
    | '-' :: '-' :: _ => .error (.unknownOption name)
    | _ => readLetters specs next (arg.drop 1)

structure Parsed (O : Type) where
  given : List (Given O)
  rest : List Text
deriving DecidableEq, Repr

def parse (specs : List (OptionSpec O)) (mixed : Bool) :
    List Text → Except UsageError (Parsed O)
  | [] => .ok ⟨[], []⟩
  | arg :: args =>
    if arg = ['-', '-'] then .ok ⟨[], args⟩
    else if arg.head? = some '-' ∧ 1 < arg.length then
      match readOption specs arg args.head? with
      | .error e => .error e
      | .ok r =>
        (parse specs mixed (if r.takesNext then args.tail else args)).map
          (fun p => { p with given := r.given ++ p.given })
    else if mixed then (parse specs mixed args).map (fun p => { p with rest := arg :: p.rest })
    else .ok ⟨[], arg :: args⟩
termination_by args => args.length
decreasing_by
  · split <;> simp only [List.length_tail, List.length_cons] <;> omega
  · simp

namespace Parsed

def value? [DecidableEq O] (p : Parsed O) (option : O) : Option Text :=
  (p.given.reverse.find? (·.option = option)).bind (·.value)

def has [DecidableEq O] (p : Parsed O) (option : O) : Bool := p.given.any (·.option = option)

def problem? [DecidableEq O] (p : Parsed O) (specs : List (OptionSpec O)) (disk : Disk) :
    Option (OptionSpec O × Text) :=
  p.given.findSome? (fun g =>
    (specs.find? (·.option = g.option)).bind (fun spec =>
      match spec.value, p.value? g.option with
      | some kind, some value => (kind.problem? disk value).map (spec, ·)
      | _, _ => none))

end Parsed

def OptionSpec.hint (spec : OptionSpec O) : Text :=
  " / ".toList.intercalate (spec.names.map (fun n => '\'' :: (n ++ ['\''])))

end CommentTags.CommandLine
