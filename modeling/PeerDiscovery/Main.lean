import PeerDiscovery.CommandLine.Session

/-!
# The program on a real machine

The requests of a command are answered with the files, the standard output and
the random bytes of the machine.  Whatever a command decides is decided by its
script; this layer only carries out what the script asks for.
-/

namespace PeerDiscovery

namespace Machine

def fileError : IO.Error → FileError
  | .noFileOrDirectory .. => .notFound
  | .alreadyExists .. => .alreadyExists
  | .inappropriateType _ 21 _ | .illegalOperation 21 _ => .isDirectory
  | .inappropriateType .. => .notDirectory
  | cause => .other (toString cause)

def attempt {Value : Type} (action : IO Value) : IO (Except FileError Value) := do
  try
    return .ok (← action)
  catch cause => return .error (fileError cause)

/-- The directory that a path leads through last; nothing if there is none. -/
def directoryOf (path : String) : String :=
  "/".intercalate (path.splitOn "/").dropLast

def isThere (path : String) : IO Bool := do
  match ← attempt (IO.FS.Handle.mk path .read) with
  | .error .notFound | .error .notDirectory => return false
  | _ => return true

def write (path : String) (contents : Bytes) (isPrivate : Bool) : IO Unit := do
  let directory := directoryOf path
  if directory ≠ "" then IO.FS.createDirAll directory
  IO.FS.writeBinFile path ⟨contents.toArray⟩
  if isPrivate then IO.setAccessRights path { user := { read := true, write := true } }

def random (count : Nat) : IO (Block count) := do
  let bytes ← IO.getRandomBytes (.ofNat count)
  match Block.ofBytes? count bytes.toList with
  | some block => return block
  | none => throw (IO.userError "too few random bytes")

def answer (request : Request) : IO request.Answer :=
  match request with
  | .read path => attempt do return (← IO.FS.readBinFile path).toList
  | .isThere path => isThere path
  | .write path contents isPrivate => attempt (write path contents isPrivate)
  | .print line => IO.println line
  | .random count => random count

/-- Says how a command ended, and gives the exit code.  A node can be set up, but
there is no transport here over which it could run. -/
def conclude (ending : Ending) : IO UInt32 := do
  ending.output.forM IO.println
  ending.errors.forM IO.eprintln
  match ending with
  | .serving .. =>
    IO.eprintln "Error: no transport to run a node on"
    return 1
  | _ => return .ofNat ending.code

end Machine

end PeerDiscovery

/-- Runs the program with its arguments, for the owner of the home directory. -/
def main (arguments : List String) : IO UInt32 := do
  let home := (← IO.getEnv "HOME").getD "/tmp"
  let ending ← (PeerDiscovery.program home arguments).run PeerDiscovery.Machine.answer
  PeerDiscovery.Machine.conclude ending
