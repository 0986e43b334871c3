import MountKeys.Utf8

/-!
# Key pairs

The bytes of an SSH key pair as they stand in its two files.  They are opaque here: a pair is
carried to the cluster whether or not it can be read as one.
-/

namespace MountKeys

/-- The bytes of a private and a public key. -/
structure KeyPair where
  privateKey : Bytes
  publicKey : Bytes
  deriving DecidableEq

/-- One half of a key pair. -/
inductive KeyHalf
  | privateKey
  | publicKey
  deriving DecidableEq, Repr

/-- What messages call the half. -/
def KeyHalf.label : KeyHalf → String
  | .privateKey => "private key"
  | .publicKey => "public key"

namespace KeyPair

/-- The bytes of one half. -/
def half (keys : KeyPair) : KeyHalf → Bytes
  | .privateKey => keys.privateKey
  | .publicKey => keys.publicKey

/-- A description that says nothing about the private key. -/
def describe (keys : KeyPair) : String :=
  "KeyMaterial \x7b private_key: \"***\", public_key_len: " ++ toString keys.publicKey.length ++
    " \x7d"

end KeyPair

end MountKeys
