import ServiceRouting.Registry
import ServiceRouting.Table

/-!
# The bundled providers

Four providers come with the library, each described by a table.  Their manifests are always known,
also where the provider itself is treated as not installed; the first of them publishes the symbols
that the others' callers share.
-/

set_option autoImplicit false

namespace ServiceRouting

/-! ## Manifests -/

/-- What is known of a provider before it is loaded. -/
structure Manifest where
  id : String
  installHint : String
  specs : List ServiceSpec
  deriving DecidableEq, Repr

namespace Manifest

def serviceNames (manifest : Manifest) : List String :=
  manifest.specs.map ServiceSpec.name

def registration (manifest : Manifest) : Registration :=
  ⟨manifest.id, manifest.serviceNames, manifest.installHint⟩

end Manifest

/-! ## Tables -/

namespace Bundled

/-- Object stores and local services of general use. -/
def coreSpecs : List ServiceSpec :=
  [ { name := "azblob", capability := .objectStore, required := ["container"],
        secrets := ["account_key", "sas_token"] },
    { name := "azdls", capability := .full, required := ["filesystem"],
        secrets := ["account_key"] },
    { name := "cos", capability := .objectStore, required := ["bucket"],
        secrets := ["secret_key"] },
    { name := "fs", capability := .full, required := ["root"], probeKey := some "root" },
    { name := "gcs", capability := .objectStore, required := ["bucket"],
        secrets := ["credential"] },
    { name := "ghac", capability := .keyValue, secrets := ["runtime_token"] },
    { name := "http", capability := .readOnly, required := ["endpoint"],
        secrets := ["password", "token"] },
    { name := "ipmfs", capability := .full },
    { name := "memory", capability := .full },
    { name := "obs", capability := .objectStore, required := ["bucket", "endpoint"],
        secrets := ["secret_access_key"] },
    { name := "oss", capability := .objectStore, required := ["bucket", "endpoint"],
        secrets := ["access_key_secret"] },
    { name := "s3", capability := .objectStore, required := ["bucket"],
        secrets := ["secret_access_key", "session_token"] },
    { name := "webdav", capability := .full, required := ["endpoint"],
        secrets := ["password", "token"] },
    { name := "webhdfs", capability := .full, required := ["endpoint"],
        secrets := ["delegation"] } ]

/-- Relational and document databases, caches and embedded stores. -/
def databaseSpecs : List ServiceSpec :=
  [ { name := "mysql", capability := .keyValue, required := ["connection_string", "table"],
        secrets := ["connection_string"] },
    { name := "postgresql", capability := .keyValue, required := ["connection_string", "table"],
        secrets := ["connection_string"] },
    { name := "sqlite", capability := .keyValue, required := ["connection_string", "table"] },
    { name := "mongodb", capability := .keyValue,
        required := ["connection_string", "database", "collection"],
        secrets := ["connection_string"] },
    { name := "gridfs", capability := .keyValue,
        required := ["connection_string", "database", "bucket"], secrets := ["connection_string"] },
    { name := "redis", capability := .keyValue, required := ["endpoint"],
        secrets := ["password"] },
    { name := "memcached", capability := .keyValue, required := ["endpoint"],
        secrets := ["password"] },
    { name := "sled", capability := .keyValue, required := ["datadir"] },
    { name := "redb", capability := .keyValue, required := ["datadir", "table"] },
    { name := "persy", capability := .keyValue, required := ["datafile", "segment", "index"] } ]

/-- Personal drives, hosted object stores and developer platforms. -/
def cloudSpecs : List ServiceSpec :=
  [ { name := "aliyun-drive", capability := .full, required := ["client_id", "refresh_token"],
        secrets := ["client_secret", "refresh_token"] },
    { name := "dropbox", capability := .full, required := ["access_token"],
        secrets := ["access_token", "refresh_token", "client_secret"] },
    { name := "onedrive", capability := .full, required := ["access_token"],
        secrets := ["access_token"] },
    { name := "gdrive", capability := .full, required := ["access_token"],
        secrets := ["access_token", "refresh_token", "client_secret"] },
    { name := "yandex-disk", capability := .full, required := ["access_token"],
        secrets := ["access_token"] },
    { name := "b2", capability := .objectStore,
        required := ["bucket", "bucket_id", "application_key_id"], secrets := ["application_key"] },
    { name := "swift", capability := .objectStore, required := ["endpoint", "container"],
        secrets := ["token"] },
    { name := "upyun", capability := .objectStore, required := ["bucket", "operator"],
        secrets := ["password"] },
    { name := "huggingface", capability := .readOnly, required := ["repo_id"],
        secrets := ["token"] },
    { name := "seafile", capability := .full, required := ["endpoint", "repo_name", "username"],
        secrets := ["password"] },
    { name := "ipfs", capability := .readOnly, required := ["endpoint"] },
    { name := "koofr", capability := .full, required := ["endpoint", "email"],
        secrets := ["password"] },
    { name := "moka", capability := .keyValue },
    { name := "dashmap", capability := .keyValue },
    { name := "vercel-artifacts", capability := .keyValue, required := ["access_token"],
        secrets := ["access_token"] },
    { name := "alluxio", capability := .full, required := ["endpoint"] } ]

/-- Specialised file systems and local caches. -/
def advancedSpecs : List ServiceSpec :=
  [ { name := "azfile", capability := .full, required := ["endpoint", "share_name"],
        secrets := ["account_key", "sas_token"] },
    { name := "monoiofs", capability := .full, required := ["root"], probeKey := some "root" },
    { name := "mini-moka", capability := .keyValue },
    { name := "cacache", capability := .keyValue, required := ["datadir"],
        probeKey := some "datadir" } ]

end Bundled

/-! ## The shared symbols -/

def releaseVersion : String := "0.3.0"

namespace SharedSymbols

def exceptions : String := "exceptions"

def version : String := "version"

/-- The symbols of the first bundled provider. -/
def table : SymbolTable :=
  SymbolTable.ofList
    [(exceptions, .errorKinds ErrorKind.all),
      ("Capability", .capability .full),
      ("EntryMode", .entryModes EntryMode.all),
      ("Metadata", .metadata { mode := .unknown }),
      ("Entry", .entry { path := "/", metadata := { mode := .dir } }),
      (version, .fixedText releaseVersion)]

end SharedSymbols

/-! ## Providers -/

inductive BundledProvider where
  | core
  | database
  | cloud
  | advanced
  deriving DecidableEq, Repr

namespace BundledProvider

/-- Every bundled provider, the one with the shared symbols first. -/
def all : List BundledProvider := [core, database, cloud, advanced]

def id : BundledProvider → ProviderId
  | core => ⟨"core", by decide⟩
  | database => ⟨"database", by decide⟩
  | cloud => ⟨"cloud", by decide⟩
  | advanced => ⟨"advanced", by decide⟩

def specs : BundledProvider → List ServiceSpec
  | core => Bundled.coreSpecs
  | database => Bundled.databaseSpecs
  | cloud => Bundled.cloudSpecs
  | advanced => Bundled.advancedSpecs

def installHint (provider : BundledProvider) : String :=
  let package := s!"install the '{provider.id}' capability package (cargo feature `{provider.id}`)"
  match provider with
  | core => package ++ "; it is required by every other provider"
  | _ => package ++ " to use this service"

def exports? : BundledProvider → Option SymbolTable
  | core => some SharedSymbols.table
  | _ => none

def manifest (provider : BundledProvider) : Manifest :=
  ⟨provider.id.text, provider.installHint, provider.specs⟩

def tableProvider (provider : BundledProvider) : TableProvider :=
  ⟨provider.id, provider.specs, provider.exports?⟩

def ofId? (id : String) : Option BundledProvider :=
  all.find? fun provider => provider.id.text == id

end BundledProvider

def bundledManifests : List Manifest :=
  BundledProvider.all.map BundledProvider.manifest

end ServiceRouting
