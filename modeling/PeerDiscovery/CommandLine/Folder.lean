import PeerDiscovery.CommandLine.Script

/-!
# Folders in memory

A folder is the working directory of a command: the files in it and below it,
each with the names that lead to it.  A directory is there if it leads to a file.
-/

namespace PeerDiscovery

@[ext]
structure FolderFile where
  /-- The names of the directories that lead to the file, and its own. -/
  path : List String
  contents : Bytes
  isPrivate : Bool
deriving DecidableEq

structure Folder where
  root : String
  files : List FolderFile
  printed : List String

namespace Folder

def enter (names : List String) (name : String) : List String :=
  if name = "" || name = "." then names
  else if name = ".." then names.dropLast
  else names ++ [name]

def names (path : String) : List String := (path.splitOn "/").foldl enter []

/-- The names in a path, relative or absolute; none in one that leads out of the
folder. -/
def names? (folder : Folder) (path : String) : Option (List String) :=
  let front := (folder.root ++ "/").toList
  if front.isPrefixOf path.toList then some (names (String.ofList (path.toList.drop front.length)))
  else if path.startsWith "/" then none
  else some (names path)

inductive Entry where
  | file (file : FolderFile)
  | directory
  /-- There is a file where a directory would have to be. -/
  | blocked
  | nothing

def entry (folder : Folder) (names : List String) : Entry :=
  match folder.files.find? fun file => file.path = names with
  | some file => .file file
  | none =>
    if names.isEmpty || folder.files.any fun file => names.isPrefixOf file.path then .directory
    else if folder.files.any fun file => file.path.isPrefixOf names then .blocked
    else .nothing

/-- What is at a path.  One that ends like a directory leads to no file. -/
def entryAt (folder : Folder) (path : String) : Entry :=
  match folder.names? path with
  | none => .nothing
  | some names =>
    match folder.entry names with
    | .file file => if path.endsWith "/" then .blocked else .file file
    | other => other

def read (folder : Folder) (path : String) : Except FileError Bytes :=
  match folder.entryAt path with
  | .file file => .ok file.contents
  | .directory => .error .isDirectory
  | .blocked => .error .notDirectory
  | .nothing => .error .notFound

def isThere (folder : Folder) (path : String) : Bool :=
  match folder.entryAt path with
  | .file _ | .directory => true
  | .blocked | .nothing => false

def put (folder : Folder) (file : FolderFile) : Folder :=
  { folder with files := folder.files.filter (fun known => known.path ≠ file.path) ++ [file] }

def write (folder : Folder) (path : String) (contents : Bytes) (isPrivate : Bool) :
    Except FileError Folder :=
  match folder.names? path with
  | none => .error .notFound
  | some names =>
    match folder.entry names.dropLast with
    | .file _ => .error .alreadyExists
    | .blocked => .error .notDirectory
    | .directory | .nothing =>
      match folder.entry names with
      | .directory => .error .isDirectory
      | _ => .ok (folder.put ⟨names, contents, isPrivate⟩)

def answer (request : Request) : StateM Folder request.Answer :=
  match request with
  | .read path => do return (← get).read path
  | .isThere path => do return (← get).isThere path
  | .write path contents isPrivate => do
    match (← get).write path contents isPrivate with
    | .ok written =>
      set written
      return .ok ()
    | .error cause => return .error cause
  | .print line => modify fun folder => { folder with printed := folder.printed ++ [line] }
  | .random count => return .ofNatLE count 0

end Folder

end PeerDiscovery
