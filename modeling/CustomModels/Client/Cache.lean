import Mathlib.Logic.Function.Basic
import CustomModels.Shared.Sha256

/-!
# The asset cache

`cache.hpp` and `cache.cpp`, over the part of `std::filesystem` that they use. A call of the filesystem does
what it is specified to do or reports an error; the error flags of a call are arguments.
-/

namespace CustomModels.Client
open CustomModels.Shared

/-! ## The filesystem -/

/-- The components of a path. -/
abbrev Path := List ByteString

/-- A regular file with its bytes, or anything else that can stand at a path. -/
inductive Entry where
  | file (data : List UInt8)
  | other
  deriving DecidableEq

abbrev Filesystem := Path → Option Entry

namespace Filesystem

/-- `remove`, and whether it reports an error. Removing what is not there is none. -/
def remove (files : Filesystem) (path : Path) (fails : Bool) : Bool × Filesystem :=
  if fails then (true, files) else (false, Function.update files path none)

/-- `rename`, and whether it reports an error. A regular file replaces a regular file. -/
def rename (files : Filesystem) (source destination : Path) (fails : Bool) : Bool × Filesystem :=
  if fails then (true, files)
  else match files source, files destination with
    | none, _ => (true, files)
    | some _, some .other => (true, files)
    | some .other, some (.file _) => (true, files)
    | some entry, _ => (false, Function.update (Function.update files source none) destination (some entry))

end Filesystem

/-! ## `AssetCache` -/

inductive CacheLookup where
  | hit
  | miss
  | diskFailure
  deriving DecidableEq

/-- Which calls of a `Lookup` report an error: `exists`, `is_regular_file`, `file_size`, `Sha256File` and
`remove`. -/
structure LookupErrors where
  status : Bool
  regularFile : Bool
  fileSize : Bool
  read : Bool
  remove : Bool

/-- Which calls of a `CommitVerified` report an error. -/
structure CommitErrors where
  createDirectories : Bool
  status : Bool
  lookup : LookupErrors
  removeTemporary : Bool
  rename : Bool

namespace AssetCache

/-- `sha256`, `tmp` and `.tmp`. -/
def sha256Directory : ByteString := [115, 104, 97, 50, 53, 54]
def tmpDirectory : ByteString := [116, 109, 112]
def tmpExtension : ByteString := [46, 116, 109, 112]

def pathFor (root : Path) (asset : AssetDescription) : Path :=
  let hash := sha256Hex asset.sha256
  root ++ [sha256Directory, hash.take 2, hash ++ extensionFor asset.type]

def temporaryPathFor (root : Path) (asset : AssetDescription) : Path :=
  root ++ [tmpDirectory, sha256Hex asset.sha256 ++ extensionFor asset.type ++ tmpExtension]

def lookup (root : Path) (files : Filesystem) (asset : AssetDescription) (errors : LookupErrors) :
    CacheLookup × Filesystem :=
  let path := pathFor root asset
  let removed : CacheLookup × Filesystem :=
    match files.remove path errors.remove with
    | (true, files) => (.diskFailure, files)
    | (false, files) => (.miss, files)
  if errors.status then (.diskFailure, files)
  else match files path with
    | none => (.miss, files)
    | some .other => removed
    | some (.file data) =>
        if errors.regularFile then removed
        else if !errors.fileSize && data.length == asset.fileSize.toNat && !errors.read &&
            sha256 data == asset.sha256 then (.hit, files)
        else removed

def removeTemporary (files : Filesystem) (temporaryPath : Path) (fails : Bool) : Filesystem :=
  (files.remove temporaryPath fails).2

/-- `CommitVerified` up to the rename: `some` result where it returns before. -/
def commitLookup (root : Path) (files : Filesystem) (asset : AssetDescription) (temporaryPath : Path)
    (errors : CommitErrors) : Option Bool × Filesystem :=
  let destination := pathFor root asset
  if errors.createDirectories then (some false, files)
  else if !errors.status && (files destination).isSome then
    match lookup root files asset errors.lookup with
    | (.hit, files) => (some true, removeTemporary files temporaryPath errors.removeTemporary)
    | (_, files) => (none, files)
  else (none, files)

/-- The rename that ends `CommitVerified`. -/
def commitRename (root : Path) (files : Filesystem) (asset : AssetDescription) (temporaryPath : Path)
    (errors : CommitErrors) : Bool × Filesystem :=
  let (error, files) := files.rename temporaryPath (pathFor root asset) errors.rename
  (!error, files)

/-! ## What the cache promises -/

/-- `0` to `9` and `a` to `f`. -/
def IsHexDigit (digit : UInt8) : Prop := 48 ≤ digit ∧ digit ≤ 57 ∨ 97 ≤ digit ∧ digit ≤ 102

/-- A name that stands for a file of its directory: `/`, `\` and `:` would end it there, `.` and `..` lead elsewhere. -/
structure FileName (name : ByteString) : Prop where
  nonempty : name ≠ []
  separators : ∀ byte ∈ name, byte ≠ 47 ∧ byte ≠ 92 ∧ byte ≠ 58
  current : name ≠ [dot]
  parent : name ≠ [dot, dot]

/-- The path is that of a file in the directory. -/
def DirectlyUnder (directory path : Path) : Prop := ∃ name, FileName name ∧ path = directory ++ [name]

/-- A regular file of the size and the digest of the asset stands at the path. -/
def Holds (files : Filesystem) (path : Path) (asset : AssetDescription) : Prop :=
  ∃ data, files path = some (.file data) ∧ data.length = asset.fileSize.toNat ∧ sha256 data = asset.sha256

instance (files : Filesystem) (path : Path) (asset : AssetDescription) : Decidable (Holds files path asset) :=
  match h : files path with
  | some (.file data) =>
      decidable_of_iff (data.length = asset.fileSize.toNat ∧ sha256 data = asset.sha256) (by simp [Holds, h])
  | some .other => .isFalse (by simp [Holds, h])
  | none => .isFalse (by simp [Holds, h])

end AssetCache

end CustomModels.Client
