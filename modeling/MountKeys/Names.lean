import MountKeys.Utf8

/-!
# Names in the cluster

A run works on three names: the namespace, the Secret and the ConfigMap.  The cluster takes a
namespace that is one label of RFC 1123 and an object name that is labels with dots between them.
`Names.check` holds all three to that before anything is sent.
-/

namespace MountKeys

/-- The names that a run works on. -/
structure Names where
  /-- The namespace. -/
  ns : String
  secret : String
  configMap : String
  deriving DecidableEq, Repr

namespace Names

/-- The names of a deployment that sets none. -/
def standard : Names :=
  ⟨"swlabpods", "backend-ssh-key", "backend-public-key"⟩

instance : Inhabited Names := ⟨standard⟩

/-! ## The grammar -/

/-- Whether a character may begin and end a label. -/
def isAlphanumeric (c : Char) : Bool :=
  ('a' ≤ c && c ≤ 'z') || ('0' ≤ c && c ≤ '9')

/-- What a reader of a name has just read. -/
inductive Last
  /-- Nothing, or a dot: a label begins here. -/
  | boundary
  | alphanumeric
  | hyphen
  deriving DecidableEq, Repr

/-- Whether the characters complete a name, read from the left; `dots` says whether the name may
have more than one label. -/
def completes (dots : Bool) : Last → List Char → Bool
  | last, [] => last == .alphanumeric
  | last, c :: rest =>
    if isAlphanumeric c then completes dots .alphanumeric rest
    else if c = '-' then last != .boundary && completes dots .hyphen rest
    else if c = '.' then dots && last == .alphanumeric && completes dots .boundary rest
    else false

/-! ## The check -/

/-- What a name is for. -/
inductive Role
  /-- The namespace. -/
  | ns
  | secret
  | configMap
  deriving DecidableEq, Repr

/-- What messages call the role. -/
def Role.label : Role → String
  | .ns => "namespace"
  | .secret => "secret name"
  | .configMap => "config map name"

/-- The most bytes that a name may have. -/
def Role.limit : Role → Nat
  | .ns => 63
  | .secret | .configMap => 253

/-- Whether a name of the role may have more than one label. -/
def Role.allowsDots : Role → Bool
  | .ns => false
  | .secret | .configMap => true

/-- Why a name is refused. -/
inductive Reason
  | empty
  /-- It has more bytes than its role allows. -/
  | tooLong (length : Nat)
  /-- It is not made of labels. -/
  | malformed
  deriving DecidableEq, Repr

/-- A name that the cluster would refuse. -/
structure Invalid where
  role : Role
  value : String
  reason : Reason
  deriving DecidableEq, Repr

/-- The reason in words. -/
def Invalid.reasonText (e : Invalid) : String :=
  match e.reason with
  | .empty => "cannot be empty"
  | .tooLong length =>
    s!"exceeds maximum length of {e.role.limit} characters (got {length})"
  | .malformed =>
    if e.role.allowsDots then
      "must be lowercase alphanumeric, hyphens or dots, " ++
        "and cannot start or end with a hyphen or dot"
    else "must be lowercase alphanumeric or hyphens, and cannot start or end with a hyphen"

/-- What is wrong, in words. -/
def Invalid.message (e : Invalid) : String :=
  s!"invalid {e.role.label} '{e.value}': {e.reasonText}"

/-- Hold one name to the rules of its role: the first reason that applies refuses it. -/
def checkOne (role : Role) (value : String) : Except Invalid Unit :=
  let length := (textBytes value).length
  if value.isEmpty then .error ⟨role, value, .empty⟩
  else if role.limit < length then .error ⟨role, value, .tooLong length⟩
  else if completes role.allowsDots .boundary value.toList then .ok ()
  else .error ⟨role, value, .malformed⟩

/-- Hold all names to their rules: the first bad one is refused. -/
def check (names : Names) : Except Invalid Unit :=
  match checkOne .ns names.ns with
  | .error e => .error e
  | .ok () =>
    match checkOne .secret names.secret with
    | .error e => .error e
    | .ok () => checkOne .configMap names.configMap

end Names

end MountKeys
