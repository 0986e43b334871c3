import MountKeys.Base64
import MountKeys.Keys
import MountKeys.Sha256
import MountKeys.Text.Basic

/-!
# Fingerprints

A line of a public key file holds the type of the key and, in base64, a blob that starts with that
type once more; options may stand before them and a comment after.  `fingerprint?` finds the blob
of the first line that is not blank and no comment, and gives its SHA-256 hash as `ssh-keygen`
shows it.
-/

namespace MountKeys.Fingerprint

/-- The key type at the start of a blob: its length in four bytes, then its text. -/
def blobType? : Bytes → Option (List Char)
  | a :: b :: c :: d :: rest =>
    let length := ((a.toNat * 256 + b.toNat) * 256 + c.toNat) * 256 + d.toNat
    if length ≤ rest.length then (Utf8.decode (rest.take length)).toOption else none
  | _ => none

/-- The blob that `body` holds, if it is one of a key of type `type`. -/
def blobOf? (type body : List Char) : Option Bytes :=
  (Base64.decode? body).filter fun blob => blobType? blob == some type

/-- The blob of the first two words side by side that are a key type and its blob. -/
def blobAmong? : List (List Char) → Option Bytes
  | type :: body :: rest =>
    match blobOf? type body with
    | some blob => some blob
    | none => blobAmong? (body :: rest)
  | _ => none

/-- Whether a line without blanks at its ends may hold a key. -/
def mayHoldKey (line : List Char) : Bool :=
  match line with
  | [] => false
  | c :: _ => c != '#'

/-- The first line that may hold a key. -/
def keyLine? (text : List Char) : Option (List Char) :=
  ((Text.cutAt '\n' text).map Text.trim).find? mayHoldKey

/-- The blob of the key in a text. -/
def blobIn? (text : List Char) : Option Bytes :=
  (keyLine? text).bind fun line => blobAmong? (Text.words line)

/-- The fingerprint of a blob. -/
def ofBlob (blob : Bytes) : String :=
  "SHA256:" ++ String.ofList (Base64.encodeBare (Sha256.digest blob))

/-- The fingerprint of the key in a text. -/
def ofText? (text : List Char) : Option String :=
  (blobIn? text).map ofBlob

end MountKeys.Fingerprint

namespace MountKeys

/-- The fingerprint of the public key of a pair, if the file is text and holds a key. -/
def KeyPair.fingerprint? (keys : KeyPair) : Option String :=
  (Utf8.decode keys.publicKey).toOption.bind Fingerprint.ofText?

end MountKeys
