import MountKeys.FileFault
import MountKeys.Keys
import MountKeys.Log.Notice
import MountKeys.Path

/-!
# Loading a key pair

Both files are read, the private key first, so that of two missing files the private one is
reported.  `Files` is all that loading knows of a file system.
-/

namespace MountKeys

/-- A regular file. -/
structure File where
  /-- The permission bits. -/
  mode : Nat
  data : Bytes
  deriving DecidableEq

/-- What reading the file at a path gives. -/
abbrev Files := Path → Except FileFault File

/-- Where the keys of a pair are. -/
structure KeyFiles where
  privateKey : Path
  publicKey : Path
  deriving DecidableEq, Repr

/-- Whether anyone but the owner may do something with a file. -/
def File.isExposed (f : File) : Bool :=
  f.mode % 64 != 0

namespace KeyFiles

/-- The file of one half. -/
def half (paths : KeyFiles) : KeyHalf → Path
  | .privateKey => paths.privateKey
  | .publicKey => paths.publicKey

/-- The file of one half of a pair. -/
def read (paths : KeyFiles) (files : Files) (half : KeyHalf) : Except KeyFault File :=
  match files (paths.half half) with
  | .ok file => .ok file
  | .error fault => .error ⟨half, paths.half half, fault⟩

/-- What is to be said about loaded files: a warning if others may use the private key, and what
was loaded. -/
def notices (paths : KeyFiles) (privateFile publicFile : File) : List Notice :=
  (if privateFile.isExposed then [.exposedKey paths.privateKey privateFile.mode] else []) ++
    [.keysLoaded paths.privateKey privateFile.data.length paths.publicKey publicFile.data.length]

/-- The key pair in the files, and what is to be said about them. -/
def load (paths : KeyFiles) (files : Files) : Except KeyFault (KeyPair × List Notice) :=
  match paths.read files .privateKey with
  | .error fault => .error fault
  | .ok privateFile =>
    match paths.read files .publicKey with
    | .error fault => .error fault
    | .ok publicFile =>
      .ok (⟨privateFile.data, publicFile.data⟩, paths.notices privateFile publicFile)

end KeyFiles

end MountKeys
