import PeerDiscovery.Bytes

/-!
# Scripts

A command asks the machine it runs on for a few things: to read or write a file,
to print a line, for random bytes.  A script is a command as a tree of such
requests, with one branch for each answer.  Whatever answers the requests runs
the script: a real machine, or a folder that is kept in memory.
-/

namespace PeerDiscovery

inductive FileError where
  | notFound
  | alreadyExists
  | notDirectory
  | isDirectory
  | other (text : String)
deriving DecidableEq

namespace FileError

def message : FileError → String
  | notFound => "No such file or directory (os error 2)"
  | alreadyExists => "File exists (os error 17)"
  | notDirectory => "Not a directory (os error 20)"
  | isDirectory => "Is a directory (os error 21)"
  | other text => text

end FileError

inductive Request where
  | read (path : String)
  | isThere (path : String)
  /-- Writes a file, and creates the directories that lead to it.  A private file
  is for its owner only. -/
  | write (path : String) (contents : Bytes) (isPrivate : Bool)
  | print (line : String)
  | random (count : Nat)

namespace Request

def Answer : Request → Type
  | read _ => Except FileError Bytes
  | isThere _ => Bool
  | write .. => Except FileError Unit
  | print _ => Unit
  | random count => Block count

end Request

/-- A command as a tree of requests. -/
inductive Script (Value : Type) : Type where
  | done (value : Value)
  | ask (request : Request) (next : request.Answer → Script Value)

namespace Script

variable {Value Result : Type}

def bind : Script Value → (Value → Script Result) → Script Result
  | done value, next => next value
  | ask request branch, next => ask request fun answer => (branch answer).bind next

instance : Monad Script where
  pure := done
  bind := bind

def request (request : Request) : Script request.Answer := ask request done

/-- Runs a script with something that answers its requests. -/
def run {Machine : Type → Type} [Monad Machine]
    (answer : (request : Request) → Machine request.Answer) : Script Value → Machine Value
  | done value => pure value
  | ask request next => do
    let reply ← answer request
    (next reply).run answer

end Script

end PeerDiscovery
