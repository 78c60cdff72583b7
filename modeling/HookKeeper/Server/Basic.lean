import HookKeeper.Api.Program
import HookKeeper.Server.Store

/-!
# A server to run programs against

The server answers requests from its store, unless a reply was laid down for
the method and path of a request: the oldest such reply is given first, as
often as it may be used, and leaves the store alone.  Every request is logged
with the second at which it came.
-/

namespace HookKeeper

open HookKeeper.Json

/-- A reply that is laid down for a method and a path. -/
structure PreparedAnswer where
  method : Method
  path : String
  answer : Answer
  /-- How often it may still be used; for ever if it is not said. -/
  uses : Option Nat
  deriving DecidableEq, Repr

namespace PreparedAnswer

/-- Whether an answer is laid down for a request. -/
def fits (prepared : PreparedAnswer) (request : Request) : Bool :=
  prepared.method == request.method && prepared.path == request.address.path

/-- What is left of an answer after one use. -/
def used (prepared : PreparedAnswer) : Option PreparedAnswer :=
  match prepared.uses with
  | none => some prepared
  | some uses =>
      if uses ≤ 1 then none
      else some { prepared with uses := some (uses - 1) }

/-- The oldest answer for a request, and the answers that are left. -/
def take (request : Request) :
    List PreparedAnswer → Option (Answer × List PreparedAnswer)
  | [] => none
  | first :: rest =>
      if first.fits request then some (first.answer, first.used.toList ++ rest)
      else (take request rest).map fun (answer, left) => (answer, first :: left)

end PreparedAnswer

/-- A server. -/
structure Server where
  store : Store := {}
  /-- The answers that are laid down, the oldest first. -/
  prepared : List PreparedAnswer := []
  /-- The requests so far and their seconds, the latest first. -/
  log : List (Nat × Request) := []
  second : Nat := 0
  clock : Moment
  deriving DecidableEq, Repr

namespace Server

/-- The server with a request in its log. -/
def logged (server : Server) (request : Request) : Server :=
  { server with log := (server.second, request) :: server.log }

def answer (server : Server) (request : Request) : Answer × Server :=
  let server := server.logged request
  match PreparedAnswer.take request server.prepared with
  | some (answer, left) => (answer, { server with prepared := left })
  | none =>
      let (reply, store) := server.store.handle request
      (.reply reply, { server with store := store })

/-- The server as a host of programs. -/
def host : Host Server where
  answer := fun server _ request => server.answer request
  clock := Server.clock
  wait := fun server seconds =>
    { server with second := server.second + seconds }

/-- The result of a program, and the server after it. -/
def run (server : Server) (program : Program α) : α × Server :=
  program.run host server

end Server

/-- What others do to a server. -/
inductive OutsideAction where
  | put (path : String) (object : Value)
  | merge (path : String) (patch : Value)
  | delete (path : String)
  | prepare (answer : PreparedAnswer)
  deriving Repr

def Server.suffer (server : Server) : OutsideAction → Server
  | .put path object => { server with store := server.store.write path object }
  | .merge path patch => { server with store := server.store.merge path patch }
  | .delete path => { server with store := server.store.delete path }
  | .prepare answer => { server with prepared := server.prepared ++ [answer] }

end HookKeeper
