import MountKeys.Api.Request
import MountKeys.Json.Parser
import MountKeys.Json.Printer
import MountKeys.Manifest
import MountKeys.Text.Basic
import MountKeys.Timestamp

/-!
# An API server

A server that keeps objects as the JSON values that were sent to it.  Each write gives an object a
new version; a replacement that names a version takes place only while that one is current.
`Server.answer` is how it answers requests, `Server.write` and the operations after it are what
another client may do to it.
-/

namespace MountKeys

/-- What an API server holds. -/
structure Server where
  namespaces : SortedMap String Unit
  objects : SortedMap Place Json
  /-- The number of writes. -/
  version : Nat
  /-- How many times of creation were given out. -/
  clock : Nat

namespace Server

/-- The server that holds nothing. -/
def empty : Server :=
  ⟨∅, ∅, 0, 0⟩

/-! ## What requests are about -/

/-- What a path names. -/
inductive Route
  | namespaces
  | inNamespace (ns : String)
  | collection (ns : String) (kind : Kind)
  | object (p : Place)
  deriving DecidableEq, Repr

/-- The kind whose objects a collection holds. -/
def kindOf? (plural : String) : Option Kind :=
  [Kind.secret, Kind.configMap].find? fun k => k.plural == plural

/-- What a target names, its query aside. -/
def Route.ofTarget? (target : String) : Option Route :=
  let path := target.toList.takeWhile (· != '?')
  match (Text.cutAt '/' path).map String.ofList with
  | ["", "api", "v1", "namespaces"] => some .namespaces
  | ["", "api", "v1", "namespaces", ns] => some (.inNamespace ns)
  | ["", "api", "v1", "namespaces", ns, plural] => (kindOf? plural).map (.collection ns)
  | ["", "api", "v1", "namespaces", ns, plural, name] =>
    (kindOf? plural).map fun kind => .object ⟨ns, kind, name⟩
  | _ => none

/-- The name of the collection that a route is about. -/
def Route.plural : Route → String
  | .namespaces | .inNamespace _ => "namespaces"
  | .collection _ kind => kind.plural
  | .object p => p.kind.plural

/-! ## Answers -/

/-- The body of a refusal. -/
def statusBody (code : Nat) (reason message : String) : Json :=
  .object [("kind", .text "Status"), ("apiVersion", .text "v1"), ("metadata", .object []),
    ("status", .text "Failure"), ("message", .text message), ("reason", .text reason),
    ("code", .number (toString code))]

/-- A value as an answer. -/
def reply (status : Nat) (j : Json) : Reply :=
  .answered status (Utf8.encode j.print)

/-- A refusal. -/
def refuse (code : Nat) (reason message : String) : Reply :=
  reply code (statusBody code reason message)

/-- The refusal of what is not there. -/
def notFound (resource name : String) : Reply :=
  refuse 404 "NotFound" s!"{resource} \"{name}\" not found"

/-- The refusal to create what is there. -/
def alreadyExists (resource name : String) : Reply :=
  refuse 409 "AlreadyExists" s!"{resource} \"{name}\" already exists"

/-! ## Objects -/

/-- A text in the metadata of an object. -/
def metadataText (name : String) (j : Json) : Option String :=
  ((j.field? "metadata").bind (Json.field? name)).bind Json.text?

/-- The time of a count of seconds, on one day and within one hour of it. -/
def timeOf (n : Nat) : String :=
  Timestamp.print ⟨2026, 1, 1, 0, n / 60 % 60, n % 60⟩

/-- When an object at a place was first stored: as told, else as before, else now. -/
def createdAt (s : Server) (p : Place) (told : Option String) : String × Nat :=
  match told with
  | some created => (created, s.clock)
  | none =>
    match (s.objects.get? p).bind (metadataText "creationTimestamp") with
    | some created => (created, s.clock)
    | none => (timeOf (s.clock + 1), s.clock + 1)

/-- An object with what the server sets in its metadata. -/
def stamp (p : Place) (version : Nat) (created : String) (j : Json) : Json :=
  let metadata := (j.field? "metadata").getD (.object [])
  j.setField "metadata" (metadata.setField "namespace" (.text p.ns)
    |>.setField "name" (.text p.name)
    |>.setField "resourceVersion" (.text (toString version))
    |>.setField "creationTimestamp" (.text created))

/-- Hold an object, in place of the one that was there, and give the object as it is held. -/
def write (s : Server) (p : Place) (j : Json) (told : Option String) : Json × Server :=
  let (created, clock) := s.createdAt p told
  let version := s.version + 1
  let j := stamp p version created j
  (j, { s with objects := s.objects.insert p j, version, clock })

/-- Hold an object with some texts and byte strings. -/
def hold (s : Server) (p : Place) (texts : SortedMap String String) (bytes : ByteMap)
    (told : Option String) : Server :=
  let encoded := (ByteMap.tree bytes).toJson
  let fields :=
    match p.kind with
    | .secret => if bytes.entries.isEmpty then [] else [("data", encoded)]
    | .configMap =>
      (if texts.entries.isEmpty then [] else [("data", (Tree.ofMap texts).toJson)]) ++
        if bytes.entries.isEmpty then [] else [("binaryData", encoded)]
  (s.write p (.object ([("apiVersion", .text apiVersion), ("kind", .text p.kind.label),
    ("metadata", .object [])] ++ fields)) told).2

/-- Have a namespace. -/
def addNamespace (s : Server) (ns : String) : Server :=
  { s with namespaces := s.namespaces.insert ns () }

/-- Lose a namespace and all that is in it. -/
def dropNamespace (s : Server) (ns : String) : Server :=
  { s with
    namespaces := s.namespaces.erase ns
    objects := s.objects.filter fun p _ => p.ns != ns }

/-- Lose an object. -/
def drop (s : Server) (p : Place) : Server :=
  { s with objects := s.objects.erase p }

/-! ## Requests -/

/-- The value that a body writes. -/
def bodyOf (q : Request) : Json :=
  ((q.body.bind fun b => (Utf8.decode b).toOption).bind Json.parse).getD (.object [])

/-- Create a namespace. -/
def postNamespace (s : Server) (q : Request) : Reply × Server :=
  let j := bodyOf q
  let name := (metadataText "name" j).getD ""
  if s.namespaces.contains name then (alreadyExists "namespaces" name, s)
  else (.answered 201 (q.body.getD []), s.addNamespace name)

/-- Create an object. -/
def postObject (s : Server) (ns : String) (kind : Kind) (q : Request) : Reply × Server :=
  let j := bodyOf q
  let p : Place := ⟨ns, kind, (metadataText "name" j).getD ""⟩
  if !s.namespaces.contains ns then (notFound "namespaces" ns, s)
  else if s.objects.contains p then (alreadyExists kind.plural p.name, s)
  else
    let (j, s) := s.write p j none
    (reply 201 j, s)

/-- Replace an object. -/
def putObject (s : Server) (p : Place) (q : Request) : Reply × Server :=
  let j := bodyOf q
  match s.objects.get? p with
  | none => (notFound p.kind.plural p.name, s)
  | some current =>
    let sent := metadataText "resourceVersion" j
    if sent.isSome && sent != metadataText "resourceVersion" current then
      (refuse 409 "Conflict" "the object has been modified", s)
    else
      let (j, s) := s.write p j none
      (reply 200 j, s)

/-- A namespace as an object. -/
def namespaceJson (ns : String) : Json :=
  .object [("apiVersion", .text apiVersion), ("kind", .text "Namespace"),
    ("metadata", .object [("name", .text ns)])]

/-- Answer a request. -/
def answer : Handler Request (fun _ => Reply) Server := fun q s =>
  match q.method, Route.ofTarget? q.target with
  | .post, some .namespaces => s.postNamespace q
  | .post, some (.collection ns kind) => s.postObject ns kind q
  | .get, some (.inNamespace ns) =>
    if s.namespaces.contains ns then (reply 200 (namespaceJson ns), s)
    else (notFound "namespaces" ns, s)
  | .get, some (.object p) =>
    match s.objects.get? p with
    | some j => (reply 200 j, s)
    | none => (notFound p.kind.plural p.name, s)
  | .put, some (.object p) => s.putObject p q
  | _, _ => (refuse 404 "NotFound" "the server could not find the requested resource", s)

end Server

end MountKeys
