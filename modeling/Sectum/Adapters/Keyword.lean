import Sectum.Adapters.Base
import Sectum.Lib.Utf8
import Sectum.Spec.Hashing
import Sectum.Spec.Text

/-! The searches of the adapters that keep a text only when it shares a keyword with the query:
`sectum_ai.adapters.backup.s3`, `sectum_ai.adapters.backup.gcs` and
`sectum_ai.adapters.memory.redis`.  A client speaks to a world of type `σ`, as an adapter does. -/

namespace Sectum

open Py

section Tokens

variable [Lower]

/-- The `_tokens` of the three adapters. -/
def keywordTokens (text : String) : List String := runs isTokenChar (Lower.lower text)

/-- `query_tokens & _tokens(text)` is not empty. -/
def keywordMatch (query text : String) : Bool :=
  (keywordTokens query).any fun token => token ∈ keywordTokens text

end Tokens

/-- `except Exception as error: raise AdapterError(f"{message}: {error}") from error`. -/
def Call.orAdapterError {σ α : Type} (message : String) (call : Call σ Raised α) :
    Call σ Raised α := fun world =>
  match call world with
  | (.ok a, after) => (.ok a, after)
  | (.error e, after) => (.error ⟨.adapterError, message ++ ": " ++ e.text⟩, after)

/-- Runs a call for each of a list, in turn. -/
def Call.forEach {σ α β : Type} (call : α → Call σ Raised β) : List α → Call σ Raised (List β)
  | [] => .pure []
  | x :: xs => (call x).bind fun y => (forEach call xs).map fun ys => y :: ys

/-- A key, and a version of it in a versioned bucket. -/
structure S3Object where
  key : String
  versionId : Option String
  deriving DecidableEq, Repr

/-- What the adapter asks of a client about its bucket; a listing comes in pages. -/
structure S3Client (σ : Type) where
  getBucketVersioning : Call σ Raised (Option String)
  listObjectVersions : String → Call σ Raised (List (List S3Object))
  listObjectsV2 : String → Call σ Raised (List (List String))
  getObject : S3Object → Call σ Raised Bytes

/-- The world, and what the adapter has learnt of its bucket. -/
structure S3State (σ : Type) where
  versioned : Option Bool := none
  world : σ

structure S3Backup (σ : Type) where
  client : S3Client σ
  keyPrefix : String := "sectum-ai-backup"

namespace S3Backup

variable {σ : Type} (backup : S3Backup σ) (tenant : UUID)

def tenantPrefix : String := backup.keyPrefix ++ "/" ++ tenant.hex ++ "/"

/-- A call of the client, which does not touch what the adapter has learnt. -/
def ask {α : Type} (call : Call σ Raised α) : Call (S3State σ) Raised α := fun s =>
  let (result, world) := call s.world
  (result, { s with world })

/-- `_is_versioned`, which asks once. -/
def isVersioned : Call (S3State σ) Raised Bool := fun s =>
  match s.versioned with
  | some versioned => (.ok versioned, s)
  | none =>
    match backup.client.getBucketVersioning s.world with
    | (.error e, world) => (.error e, { s with world })
    | (.ok status, world) =>
      let versioned : Bool := status = some "Enabled" ∨ status = some "Suspended"
      (.ok versioned, { versioned := some versioned, world })

/-- `_objects`. -/
def objects : Call (S3State σ) Raised (List S3Object) :=
  backup.isVersioned.bind fun versioned =>
    if versioned then
      (ask (backup.client.listObjectVersions (backup.tenantPrefix tenant))).map List.flatten
    else
      (ask (backup.client.listObjectsV2 (backup.tenantPrefix tenant))).map fun pages =>
        pages.flatten.map fun key => ⟨key, none⟩

variable [Unicode] [Lower]

def readObject (object : S3Object) : Call (S3State σ) Raised Bytes :=
  Call.orAdapterError ("S3 scan could not read " ++ Py.repr object.key)
    (ask (backup.client.getObject object))

def search (query : String) : Call (S3State σ) Raised (List String) :=
  (Call.orAdapterError "S3 scan could not list the tenant's objects"
    (backup.objects tenant)).bind fun objects =>
      (Call.forEach backup.readObject objects).map fun bodies =>
        (bodies.map decodeReplace).filter fun text => keywordMatch query text

end S3Backup

/-- A generation of an object. -/
structure GCSBlob where
  name : String
  generation : Nat
  deriving DecidableEq, Repr

structure GCSClient (σ : Type) where
  listBlobs : String → Call σ Raised (List GCSBlob)
  downloadAsBytes : GCSBlob → Call σ Raised Bytes

structure GCSBackup (σ : Type) where
  client : GCSClient σ
  keyPrefix : String := "sectum-ai-backup"

namespace GCSBackup

variable {σ : Type} (backup : GCSBackup σ) (tenant : UUID)

def tenantPrefix : String := backup.keyPrefix ++ "/" ++ tenant.hex ++ "/"

def blobs : Call σ Raised (List GCSBlob) := backup.client.listBlobs (backup.tenantPrefix tenant)

variable [Unicode] [Lower]

def readBlob (blob : GCSBlob) : Call σ Raised Bytes :=
  Call.orAdapterError ("GCS scan could not read " ++ Py.repr blob.name)
    (backup.client.downloadAsBytes blob)

def search (query : String) : Call σ Raised (List String) :=
  (Call.orAdapterError "GCS scan could not list the tenant's objects"
    (backup.blobs tenant)).bind fun blobs =>
      (Call.forEach backup.readBlob blobs).map fun bodies =>
        (bodies.map decodeReplace).filter fun text => keywordMatch query text

end GCSBackup

structure RedisClient (σ : Type) where
  scanIter : String → Call σ Raised (List String)
  lrange : String → Call σ Raised (List String)

structure RedisMemory (σ : Type) where
  client : RedisClient σ
  sharedMemory : Bool := false
  userScoped : Bool := false
  keyPrefix : String := "sectum-ai-mem"

namespace RedisMemory

def ownerSep : Char := '\x00'

def tenantLevel : String := "-"

/-- The entry that `remember` pushes. -/
def entry (user : Option UUID) (text : String) : String :=
  (user.map UUID.hex).getD tenantLevel ++ ownerSep.toString ++ text

/-- `raw.partition("\x00")`, without the separator. -/
def parseEntry (raw : String) : String × String :=
  (String.ofList (raw.toList.takeWhile (· ≠ ownerSep)),
    String.ofList (raw.toList.dropWhile (· ≠ ownerSep)).tail)

variable {σ : Type} (memory : RedisMemory σ) (tenant : UUID)

def key : String := memory.keyPrefix ++ ":" ++ tenant.str

/-- The entries of the lists that a recall reads. -/
def rawEntries : Call σ Raised (List String) :=
  (if memory.sharedMemory then
    (memory.client.scanIter (memory.keyPrefix ++ ":*")).map fun keys =>
      keys.mergeSort fun a b => a ≤ b
  else .pure [memory.key tenant]).bind fun keys =>
    (Call.forEach memory.client.lrange keys).map List.flatten

def readableEntries : Call σ Raised (List (String × String)) :=
  (memory.rawEntries tenant).map fun raws => raws.map parseEntry

/-- Whether a session of the user may read an entry of the owner. -/
def readable (user : Option UUID) (owner : String) : Bool :=
  !(memory.userScoped && user.isSome && owner ≠ tenantLevel && some owner ≠ user.map UUID.hex)

def «recall» [Lower] (query : String) (user : Option UUID := none) : Call σ Raised (List String) :=
  (memory.readableEntries tenant).map fun entries =>
    (entries.filter fun entry =>
      memory.readable user entry.1 && keywordMatch query entry.2).map Prod.snd

end RedisMemory

end Sectum
