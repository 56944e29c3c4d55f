import CommentTags.File.Failure
import CommentTags.File.Encoding
import CommentTags.Path

/-!
A disk is a tree of directories, files and symbolic links, with a working directory. Paths are
followed component by component, and refused as a system refuses them.
-/

namespace CommentTags

inductive Node where
  | file (bytes : List UInt8)
  | dir (entries : List (Text × Node))
  | link (target : Text)

namespace Node

def entries : Node → List (Text × Node)
  | .dir es => es
  | _ => []

def child? (n : Node) (name : Text) : Option Node := n.entries.lookup name

def at? (n : Node) : List Text → Option Node
  | [] => some n
  | name :: rest => (n.child? name).bind (fun c => c.at? rest)

def setEntry (name : Text) (node : Node) : List (Text × Node) → List (Text × Node)
  | [] => [(name, node)]
  | (k, v) :: es => if k = name then (k, node) :: es else (k, v) :: setEntry name node es

def insert (node : Node) : List Text → Node → Node
  | [], _ => node
  | name :: rest, n =>
    .dir (setEntry name (insert node rest ((n.child? name).getD (.dir []))) n.entries)

mutual

def size : Node → Nat
  | .dir es => 1 + sizeOfEntries es
  | _ => 1

def sizeOfEntries : List (Text × Node) → Nat
  | [] => 0
  | (_, n) :: es => n.size + sizeOfEntries es

end

mutual

def files (path : Text) : Node → List (Text × List UInt8)
  | .file bytes => [(path, bytes)]
  | .dir es => filesOfEntries path es
  | .link _ => []

def filesOfEntries (path : Text) : List (Text × Node) → List (Text × List UInt8)
  | [] => []
  | (name, n) :: es => files (Path.join path name) n ++ filesOfEntries path es

end

end Node

structure Disk where
  root : Node
  cwd : List Text

namespace Disk

def cwdPath (d : Disk) : Text := '/' :: ['/'].intercalate d.cwd

inductive Place where
  | found (path : List Text) (node : Node)
  | missing (dir : List Text) (name : Text)

def nameLimit : Nat := 255
def pathLimit : Nat := 4095

def linkLimit : Nat := 40

def steps (path : Text) : List Text :=
  (path.splitOn '/').filter (fun c => !c.isEmpty) ++
    (if path.length > 1 && path.getLast? = some '/' then [['.']] else [])

/-- Follows steps from a directory up to the first symbolic link, from where `jump` goes on. The
last step is followed through a link only if `follow` is set. -/
def locateBy (d : Disk) (follow : Bool)
    (jump : (dir : List Text) → (target : Text) → (rest : List Text) → Except Int Place)
    (dir : List Text) : (todo : List Text) → Except Int Place
  | [] =>
    match d.root.at? dir with
    | some node => .ok (.found dir node)
    | none => .error Failure.fileMissing
  | name :: rest =>
    if name = ['.'] then locateBy d follow jump dir rest
    else if name = ['.', '.'] then locateBy d follow jump dir.dropLast rest
    else if nameLimit < (Utf8.encode name).length then .error Failure.nameTooLong
    else
      match (d.root.at? dir).bind (·.child? name) with
      | none => if rest.isEmpty then .ok (.missing dir name) else .error Failure.fileMissing
      | some (.dir _) => locateBy d follow jump (dir ++ [name]) rest
      | some (.file bytes) =>
        if rest.isEmpty then .ok (.found (dir ++ [name]) (.file bytes))
        else .error Failure.notDirectory
      | some (.link target) =>
        if rest.isEmpty && !follow then .ok (.found (dir ++ [name]) (.link target))
        else jump dir target rest

def locate (d : Disk) (follow : Bool) : (links : Nat) → (dir todo : List Text) → Except Int Place
  | 0 => d.locateBy follow (fun _ _ _ => .error Failure.tooManyLinks)
  | links + 1 => d.locateBy follow (fun dir target rest =>
    if target.isEmpty then .error Failure.fileMissing
    else
      let start := if target.head? = some '/' then [] else dir
      locate d follow links start (steps target ++ rest))

def resolve (d : Disk) (follow : Bool) (path : Text) : Except Int Place :=
  if path.isEmpty || path.contains Failure.zero then .error Failure.fileMissing
  else if pathLimit < (Utf8.encode path).length then .error Failure.nameTooLong
  else locate d follow linkLimit (if path.head? = some '/' then [] else d.cwd) (steps path)

def node (d : Disk) (path : Text) : Except Int Node :=
  match d.resolve true path with
  | .ok (.found _ n) => .ok n
  | .ok (.missing ..) => .error Failure.fileMissing
  | .error code => .error code

def checked (path : Text) (result : Except Failure α) : Except Failure α :=
  if path.contains Failure.zero then .error .zeroInPath else result

def readBytes (d : Disk) (path : Text) : Except Failure (List UInt8) :=
  checked path (match d.node path with
    | .ok (.file bytes) => .ok bytes
    | .ok _ => .error (.ofCode Failure.isDirectory path)
    | .error code => .error (.ofCode code path))

def readDir (d : Disk) (path : Text) : Except Failure (List (Text × Node)) :=
  checked path (match d.node path with
    | .ok (.dir es) => .ok es
    | .ok _ => .error (.ofCode Failure.notDirectory path)
    | .error code => .error (.ofCode code path))

def meansAbsent (code : Int) : Bool :=
  code == Failure.fileMissing || code == Failure.notDirectory || code == Failure.tooManyLinks

def pathExists (d : Disk) (path : Text) : Except Failure Bool :=
  match d.node path with
  | .ok _ => .ok true
  | .error code => if meansAbsent code then .ok false else .error (.ofCode code path)

def isDir (d : Disk) (path : Text) : Except Failure Bool :=
  match d.node path with
  | .ok (.dir _) => .ok true
  | .ok _ => .ok false
  | .error code => if meansAbsent code then .ok false else .error (.ofCode code path)

def put (d : Disk) (path : List Text) (n : Node) : Disk := { d with root := n.insert path d.root }

def writeBytes (d : Disk) (append : Bool) (path : Text) (bytes : List UInt8) :
    Except Failure Disk :=
  checked path (match d.resolve true path with
    | .ok (.found place (.file old)) =>
      .ok (d.put place (.file (if append then old ++ bytes else bytes)))
    | .ok (.found ..) => .error (.ofCode Failure.isDirectory path)
    | .ok (.missing dir name) => .ok (d.put (dir ++ [name]) (.file bytes))
    | .error code => .error (.ofCode code path))

def makeDir (d : Disk) (path : Text) : Except Failure Disk :=
  checked path (match d.resolve false path with
    | .ok (.found ..) => .error (.ofCode Failure.fileExists path)
    | .ok (.missing dir name) => .ok (d.put (dir ++ [name]) (.dir []))
    | .error code => .error (.ofCode code path))

/-- What to do about a directory that could not be made: it is no failure if it is there. -/
def unlessPresent (d : Disk) (path : Text) (failure : Failure) : Except Failure Disk :=
  match d.isDir path with
  | .ok true => .ok d
  | .ok false => .error failure
  | .error other => .error other

def makeDirs (d : Disk) : (fuel : Nat) → Text → Except Failure Disk
  | 0, path => d.makeDir path
  | fuel + 1, path =>
    match d.makeDir path with
    | .ok made => .ok made
    | .error failure =>
      let above := Path.parent path
      if failure.isMissing && above ≠ path then
        match makeDirs d fuel above with
        | .error failure => .error failure
        | .ok made =>
          match made.makeDir path with
          | .ok made => .ok made
          | .error failure =>
            if failure.isMissing then .error failure else made.unlessPresent path failure
      else if failure.isMissing then .error failure
      else d.unlessPresent path failure

def ensureDir (d : Disk) (path : Text) : Except Failure Disk := d.makeDirs path.length path

def ownFiles (d : Disk) : List (Text × List UInt8) :=
  ((d.root.at? d.cwd).map (Node.files [])).getD []

/-- No walk goes deeper: every further level takes another node or another link. -/
def depth (d : Disk) : Nat := (d.root.size + 1) * (linkLimit + 2)

end Disk

end CommentTags
