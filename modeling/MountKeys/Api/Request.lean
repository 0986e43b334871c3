import MountKeys.Dialogue

/-!
# Requests to the API server

A request names a resource by a path; a name goes into the path as it is.  `Request.target?` holds
a path to the characters that a request may have, so that a name with others is refused here and
not sent.
-/

namespace MountKeys

/-- What a request does with a resource. -/
inductive Method
  | get
  | post
  | put
  deriving DecidableEq, Repr

/-- The name of the method. -/
def Method.label : Method → String
  | .get => "GET"
  | .post => "POST"
  | .put => "PUT"

/-- A request. -/
structure Request where
  method : Method
  /-- The path, and the query if there is one. -/
  target : String
  /-- What is sent along. -/
  body : Option Bytes
  deriving DecidableEq

/-- What becomes of a request. -/
inductive Reply
  /-- There was no answer. -/
  | failed (reason : String)
  | answered (status : Nat) (body : Bytes)
  deriving DecidableEq

/-- A dialogue with an API server. -/
abbrev Exchange (α : Type) :=
  Dialogue Request (fun _ => Reply) α

namespace Request

/-! ## Paths -/

/-- The collection of the namespaces. -/
def namespacesPath : String := "/api/v1/namespaces"

/-- A namespace. -/
def namespacePath (ns : String) : String :=
  namespacesPath ++ "/" ++ ns

/-- The collection of the objects of a kind in a namespace. -/
def collectionPath (ns : String) (kind : Kind) : String :=
  namespacePath ns ++ "/" ++ kind.plural

/-- An object. -/
def objectPath (p : Place) : String :=
  collectionPath p.ns p.kind ++ "/" ++ p.name

/-- The query of a request that writes: it says who does. -/
def writerQuery : String := "?&fieldManager=sshfs-keysync"

/-! ## What a target may look like -/

/-- Why a target is refused. -/
inductive BadTarget
  | emptyName
  | badCharacter
  | tooLong
  deriving DecidableEq, Repr

/-- What is wrong, in words. -/
def BadTarget.message : BadTarget → String
  | .emptyName =>
    "Failed to build request: failed to validate request: A non-empty name is required"
  | .badCharacter => "Failed to build request: failed to build request: invalid uri character"
  | .tooLong => "Failed to build request: failed to build request: uri too long"

/-- Whether a byte may stand in a path. -/
def isPathByte (b : UInt8) : Bool :=
  b == 0x21 || b == 0x22 || (0x24 ≤ b && b ≤ 0x3B) || b == 0x3D || (0x40 ≤ b && b ≤ 0x5F) ||
    0x61 ≤ b

/-- Whether a byte may stand in a query. -/
def isQueryByte (b : UInt8) : Bool :=
  b == 0x21 || (0x24 ≤ b && b ≤ 0x3B) || b == 0x3D || 0x3F ≤ b

/-- Whether a character consists of such bytes. -/
def isMadeOf (p : UInt8 → Bool) (c : Char) : Bool :=
  (Utf8.encodeChar c).all p

/-- The query of a target up to a number sign, if its characters may stand there. -/
def query? : List Char → Option (List Char)
  | [] => some []
  | c :: rest =>
    if c = '#' then some []
    else if isMadeOf isQueryByte c then (query? rest).map (c :: ·)
    else none

/-- The path and the query of a target up to a number sign, if their characters may stand there. -/
def pathAndQuery? : List Char → Option (List Char)
  | [] => some []
  | c :: rest =>
    if c = '#' then some []
    else if c = '?' then (query? rest).map (c :: ·)
    else if isMadeOf isPathByte c then (pathAndQuery? rest).map (c :: ·)
    else none

/-- The most bytes that a target may have. -/
def targetLimit : Nat := 65534

/-- The target that a text spells. -/
def target? (text : String) : Except BadTarget String :=
  if targetLimit < (textBytes text).length then .error .tooLong
  else
    match pathAndQuery? text.toList with
    | some cs => .ok (String.ofList cs)
    | none => .error .badCharacter

end Request

end MountKeys
