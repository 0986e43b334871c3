import MountKeys.Api.Server

/-!
# Answers given in advance

A server whose answers are known beforehand, for all requests or for some of them: connections
fail, bodies are cut or forged, and a client has to make do.
-/

namespace MountKeys

/-- An answer given in advance. -/
inductive Canned
  /-- The connection fails. -/
  | lost
  /-- The body of the request comes back. -/
  | echo (status : Nat)
  | body (status : Nat) (bytes : Bytes)
  deriving DecidableEq

namespace Canned

/-- What becomes of a request. -/
def reply : Canned → Request → Reply
  | .lost, _ => .failed "connection dropped"
  | .echo status, q => .answered status (q.body.getD [])
  | .body status bytes, _ => .answered status bytes

/-- A refusal. -/
def refusal (status : Nat) (reason message : String) : Canned :=
  .body status (Utf8.encode (Server.statusBody status reason message).print)

/-- Give answers in order; when none is left the connection fails. -/
def script : Handler Request (fun _ => Reply) (List Canned)
  | q, [] => (Canned.lost.reply q, [])
  | q, c :: rest => (c.reply q, rest)

end Canned

/-- Answers to the next requests with a method about a collection, none for those that the server
answers. -/
structure Fault where
  method : Method
  plural : String
  answers : List (Option Canned)
  deriving DecidableEq

namespace Fault

/-- Whether the fault has an answer for a request. -/
def concerns (f : Fault) (q : Request) : Bool :=
  f.method == q.method && (Server.Route.ofTarget? q.target).any (fun r => r.plural == f.plural) &&
    !f.answers.isEmpty

/-- The next answer for a request, and the faults that are left. -/
def next (q : Request) : List Fault → Option Canned × List Fault
  | [] => (none, [])
  | f :: rest =>
    if f.concerns q then (f.answers.head?.join, { f with answers := f.answers.tail } :: rest)
    else
      let (answer, rest) := next q rest
      (answer, f :: rest)

/-- The server with faults in front of it. -/
def answer : Handler Request (fun _ => Reply) (List Fault × Server) := fun q (faults, s) =>
  match next q faults with
  | (some canned, faults) => (canned.reply q, faults, s)
  | (none, faults) =>
    let (reply, s) := Server.answer q s
    (reply, faults, s)

end Fault

end MountKeys
