import Apidoc.Repository.Path
import Apidoc.Text.Lines
import Apidoc.Text.Quoted

/-!
# The disk

The files and directories below the working directory, as a value.  Paths are looked up name by
name, so a name that is missing or no directory is found where the system would find it.

The rest of the file system is not on the disk.  A path that starts at the root, or that climbs
above the working directory, leads to nothing: what is there cannot be read, and nothing can be put
there.
-/

namespace Apidoc

/-- what a file holds; `binary` is what is no UTF-8 text -/
inductive Content where
  | text (s : String)
  | binary (bytes : List UInt8)
  deriving DecidableEq, Repr

def Content.ofBytes (bytes : ByteArray) : Content :=
  match String.fromUTF8? bytes with
  | some s => .text s
  | none => .binary bytes.toList

inductive Node where
  | file (content : Content)
  | folder
  deriving DecidableEq, Repr

inductive DiskCause where
  | missing | exists | isFolder | notFolder | longName
  deriving DecidableEq, Repr

structure DiskFault where
  cause : DiskCause
  path : String
  deriving DecidableEq, Repr

def DiskCause.text : DiskCause → String
  | .missing => "[Errno 2] No such file or directory"
  | .exists => "[Errno 17] File exists"
  | .isFolder => "[Errno 21] Is a directory"
  | .notFolder => "[Errno 20] Not a directory"
  | .longName => "[Errno 36] File name too long"

def DiskFault.message (f : DiskFault) : String := f.cause.text ++ ": " ++ Text.quoted f.path

structure Disk where
  /-- the full name of the working directory -/
  home : String
  /-- everything below it, by the names that lead there -/
  nodes : List (List String × Node)
  deriving Repr

namespace Disk

def empty (home : String) : Disk := ⟨home, []⟩

/-! ## looking up -/

def node? (d : Disk) (parts : List String) : Option Node :=
  if parts.isEmpty then some .folder else (d.nodes.find? fun n => n.1 == parts).map (·.2)

/-- A name may take 255 bytes. -/
def isLong (name : String) : Bool := 255 < name.utf8ByteSize

/-- Walks from the directory `cur` along names, all of which have to be directories. -/
def enter (d : Disk) : List String → List String → Except DiskCause (List String)
  | cur, [] => .ok cur
  | cur, p :: ps =>
    if p = ".." then if cur.isEmpty then .error .missing else enter d cur.dropLast ps
    else if isLong p then .error .longName
    else match d.node? (cur ++ [p]) with
      | some .folder => enter d (cur ++ [p]) ps
      | some (.file _) => .error .notFolder
      | none => .error .missing

/-- The names that lead to what a path means, whether or not it exists; its directory has to. -/
def locate (d : Disk) (p : Path) : Except DiskCause (List String) :=
  match p.anchor with
  | .root => .error .missing
  | _ =>
    match p.parts.getLast? with
    | none => .ok []
    | some ".." => d.enter [] p.parts
    | some last => do
      let folder ← d.enter [] p.parts.dropLast
      if isLong last then .error .longName else return folder ++ [last]

def lookup (d : Disk) (p : Path) : Option Node :=
  match d.locate p with
  | .ok parts => d.node? parts
  | .error _ => none

/-- Whether there is something at a path; only a name that is too long makes this fail. -/
def exists? (d : Disk) (p : Path) : Except DiskFault Bool :=
  match d.locate p with
  | .ok parts => .ok (d.node? parts).isSome
  | .error .longName => .error ⟨.longName, p.text⟩
  | .error _ => .ok false

def isFolder (d : Disk) (p : Path) : Bool := d.lookup p == some .folder

/-- the paths of all files, sorted by the text of the path -/
def files (d : Disk) : List String :=
  (d.nodes.filterMap fun n => match n.2 with
    | .file _ => some ("/".intercalate n.1)
    | .folder => none).mergeSort fun a b => a ≤ b

/-! ## reading and writing -/

def read (d : Disk) (p : Path) : Except DiskFault Content :=
  match d.locate p with
  | .error c => .error ⟨c, p.text⟩
  | .ok parts =>
    match d.node? parts with
    | none => .error ⟨.missing, p.text⟩
    | some .folder => .error ⟨.isFolder, p.text⟩
    | some (.file c) => .ok c

def put (d : Disk) (parts : List String) (n : Node) : Disk :=
  if d.nodes.any fun m => m.1 == parts then
    { d with nodes := d.nodes.map fun m => if m.1 == parts then (parts, n) else m }
  else { d with nodes := d.nodes ++ [(parts, n)] }

def write (d : Disk) (p : Path) (text : String) : Except DiskFault Disk :=
  match d.locate p with
  | .error c => .error ⟨c, p.text⟩
  | .ok parts =>
    match d.node? parts with
    | some .folder => .error ⟨.isFolder, p.text⟩
    | _ => .ok (d.put parts (.file (.text text)))

/-- Creates the directories on the way to `p` that are missing, and `p` itself, from the top down.
-/
def makeFrom (d : Disk) (anchor : Anchor) : (made rest : List String) → Except DiskFault Disk
  | _, [] => .ok d
  | made, p :: ps =>
    let here : Path := ⟨anchor, made ++ [p]⟩
    match d.locate here with
    | .error c => .error ⟨c, (⟨anchor, made ++ p :: ps⟩ : Path).text⟩
    | .ok parts =>
      match d.node? parts with
      | some .folder => makeFrom d anchor (made ++ [p]) ps
      | some (.file _) =>
        if ps.isEmpty then .error ⟨.exists, here.text⟩
        else .error ⟨.notFolder, (⟨anchor, made ++ p :: ps⟩ : Path).text⟩
      | none => makeFrom (d.put parts .folder) anchor (made ++ [p]) ps

def makeFolder (d : Disk) (p : Path) : Except DiskFault Disk := d.makeFrom p.anchor [] p.parts

def remove (d : Disk) (p : Path) : Except DiskFault Disk :=
  match d.locate p with
  | .error c => .error ⟨c, p.text⟩
  | .ok parts =>
    match d.node? parts with
    | none => .error ⟨.missing, p.text⟩
    | some .folder => .error ⟨.isFolder, p.text⟩
    | some (.file _) => .ok { d with nodes := d.nodes.filter fun m => m.1 != parts }

def append (d : Disk) (p : Path) (text : String) : Except DiskFault Disk :=
  match d.read p with
  | .ok (.text s) => d.write p (s ++ text)
  | .ok (.binary _) => .ok d
  | .error f => .error f

def place (d : Disk) (parts : List String) (c : Content) : Disk :=
  let above := (List.range parts.length).filterMap fun i =>
    if i = 0 then none else some (parts.take i)
  let d := above.foldl (fun d q => if (d.node? q).isSome then d else d.put q .folder) d
  d.put parts (.file c)

def ofFiles (home : String) (files : List (String × Content)) : Disk :=
  files.foldl (fun d f => d.place (Path.ofText f.1).parts f.2) (empty home)

end Disk

end Apidoc
