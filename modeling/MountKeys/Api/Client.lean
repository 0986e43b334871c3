import MountKeys.Api.Request
import MountKeys.Api.Schema
import MountKeys.Cluster.Call
import MountKeys.Json.Printer

/-!
# A client of the API server

How each call on the cluster is put as requests.  An object is created by POST; if it is there
already, it is read by GET for its version and replaced by PUT.  A replacement is the whole object,
so that nothing of the one before it is left.
-/

namespace MountKeys.Client

/-! ## Answers -/

/-- The text of an answer. -/
def textOf (body : Bytes) : Except ClusterError (List Char) :=
  match Utf8.decode body with
  | .ok text => .ok text
  | .error fault => .error (.transport s!"UTF-8 Error: {fault.message}")

/-- Whether a status says that the request was refused. -/
def isRefusal (status : Nat) : Bool :=
  400 ≤ status && status < 600

/-- A code as an error body writes it: digits, below `2 ^ 16`. -/
def code? : Json → Option Nat
  | .number lexeme =>
    let ds := lexeme.toList
    if ds.all Char.isDigit && Text.decimal ds < 65536 then some (Text.decimal ds)
    else none
  | _ => none

/-- The value of a field that occurs once; `missing` is what it is if it does not occur. -/
def once (name : String) (read : Json → Option α) (missing : Option α)
    (fields : List (String × Json)) : Option α :=
  match fields.filter fun f => f.1 == name with
  | [] => missing
  | [f] => read f.2
  | _ => none

/-- The error that a body describes, if it is one, by its fields or by their values in order. -/
def errorBody? : Json → Option ClusterError
  | .object fields => do
    let _ ← once "status" Json.text? none fields
    let message ← once "message" Json.text? (some "") fields
    let reason ← once "reason" Json.text? (some "") fields
    let code ← once "code" code? none fields
    return .rejected code reason message
  | .array [status, message, reason, code] => do
    let _ ← status.text?
    return .rejected (← code? code) (← reason.text?) (← message.text?)
  | _ => none

/-- The error of a refusal.  A body that describes none is quoted. -/
def refusal (status : Nat) (text : List Char) : ClusterError :=
  match (Json.parse text).bind errorBody? with
  | some e => e
  | none => .rejected status "Failed to parse error data" (Text.quoted (String.ofList text))

/-- What `read?` makes of an answer. -/
def receive (read? : List Char → Option α) : Reply → Except ClusterError α
  | .failed reason => .error (.transport s!"ServiceError: {reason}")
  | .answered status body =>
    match textOf body with
    | .error e => .error e
    | .ok text =>
      if isRefusal status then .error (refusal status text)
      else
        match read? text with
        | some a => .ok a
        | none => .error (.transport "Error deserializing response")

/-- Nothing but the fact that the text is a Namespace. -/
def readNamespace? (text : List Char) : Option Unit :=
  if isNamespace text then some () else none

/-! ## Requests -/

/-- Send a request and read its answer; a target that is none is not sent. -/
def exchange (method : Method) (path : String) (body : Option Bytes)
    (read? : List Char → Option α) : Exchange (Except ClusterError α) := do
  match Request.target? path with
  | .error e => return .error (.transport e.message)
  | .ok target => return receive read? (← Dialogue.send ⟨method, target, body⟩)

/-- Send a request to something with a name, which must not be empty. -/
def exchangeNamed (method : Method) (path name : String) (body : Option Bytes)
    (read? : List Char → Option α) : Exchange (Except ClusterError α) :=
  if name.isEmpty then return .error (.transport Request.BadTarget.emptyName.message)
  else exchange method path body read?

/-- The body of a request that writes an object. -/
def bodyOf (t : Tree) : Bytes :=
  Utf8.encode t.toJson.print

/-- Read something that may be absent: an error with that reason says that it is. -/
def optional : Except ClusterError α → Except ClusterError (Option α)
  | .ok a => .ok (some a)
  | .error (.rejected code reason message) =>
    if reason = "NotFound" then .ok none else .error (.rejected code reason message)
  | .error e => .error e

/-- Create an object. -/
def create (m : Manifest) (ns : String) : Exchange (Except ClusterError Received) :=
  exchange .post (Request.collectionPath ns m.kind ++ Request.writerQuery) (some (bodyOf m.tree))
    (Received.read? m.kind)

/-- Read an object. -/
def read (p : Place) : Exchange (Except ClusterError Received) :=
  exchangeNamed .get (Request.objectPath p) p.name none (Received.read? p.kind)

/-- Replace an object. -/
def replace (m : Manifest) (p : Place) : Exchange (Except ClusterError Received) :=
  exchangeNamed .put (Request.objectPath p ++ Request.writerQuery) p.name (some (bodyOf m.tree))
    (Received.read? m.kind)

/-- Replace the object at a place by another, at the version that it has now. -/
def replaceCurrent (m : Manifest) (p : Place) : Exchange (Except ClusterError Unit) := do
  match ← read p with
  | .error e => return .error e
  | .ok current =>
    match ← replace (m.replacing current.version) p with
    | .error e => return .error e
    | .ok _ => return .ok ()

/-- Create an object, or replace it if it is there. -/
def apply (m : Manifest) : Exchange (Except ClusterError Unit) := do
  match m.metadata.ns with
  | none => return .error (.invalidObject s!"{m.kind.label} has no metadata.namespace")
  | some ns =>
    match m.metadata.name with
    | none => return .error (.invalidObject s!"{m.kind.label} has no metadata.name")
    | some name =>
      Dialogue.log (.creating m.kind name)
      match ← create m ns with
      | .ok _ => return .ok ()
      | .error e =>
        if e.isAlreadyExists then
          Dialogue.log (.replacing m.kind name)
          replaceCurrent m ⟨ns, m.kind, name⟩
        else return .error e

/-- The tree of a namespace. -/
def namespaceTree (ns : String) : Tree :=
  .map [("apiVersion", .text apiVersion), ("kind", .text "Namespace"),
    ("metadata", .map [("name", .text ns)])]

/-- Put a call as requests. -/
def call : (c : Call) → Exchange c.Answer
  | .namespaceExists ns => do
    let answer ← exchangeNamed .get (Request.namespacePath ns) ns none readNamespace?
    return (optional answer).map Option.isSome
  | .createNamespace ns =>
    exchange .post (Request.namespacesPath ++ Request.writerQuery)
      (some (bodyOf (namespaceTree ns))) readNamespace?
  | .apply m => apply m
  | .get p => do
    let answer ← read p
    return (optional answer).map fun found => found.map Received.stored

/-- A session with an API server. -/
def session (s : Session α) : Exchange α :=
  s.expand call

/-- A description of a client whose calls go to a namespace unless they name one. -/
def describe (ns : String) : String :=
  "KubePlatform \x7b default_namespace: " ++ Text.quoted ns ++ ", .. \x7d"

end MountKeys.Client
