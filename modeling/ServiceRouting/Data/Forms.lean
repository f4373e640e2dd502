import ServiceRouting.Config.Settings
import ServiceRouting.Data.Decode

/-!
# Data forms of the shared types

How names, options, kinds, capabilities, entries and settings are written as data values, and how
they are read back.
-/

set_option autoImplicit false

namespace ServiceRouting

/-! ## Names and options -/

def ServiceName.decode (datum : Datum) : Decoded ServiceName := do
  let text ← datum.asText
  match ServiceName.ofText text with
  | .ok name => .ok name
  | .error failure => Decoded.misfit (.refused failure.describe)

def ServiceName.encode (name : ServiceName) : Datum := .text name.text

def ProviderId.decode (datum : Datum) : Decoded ProviderId := do
  let text ← datum.asText
  match ProviderId.ofText text with
  | .ok id => .ok id
  | .error failure => Decoded.misfit (.refused failure.describe)

def ProviderId.encode (id : ProviderId) : Datum := .text id.text

def Options.decode (datum : Datum) : Decoded Options := do
  let pairs ← datum.asMap Datum.asText
  .ok (Options.ofList pairs)

def Options.encode (options : Options) : Datum :=
  .mapping (options.toList.map fun pair => (pair.1, .text pair.2))

/-! ## Kinds, modes and capabilities -/

def ErrorKind.decode (datum : Datum) : Decoded ErrorKind := do
  let name ← datum.asVariant (ErrorKind.all.map ErrorKind.name)
  RecordShape.demand name (ErrorKind.named? ErrorKind.all name)

def ErrorKind.encode (kind : ErrorKind) : Datum := .text kind.name

def EntryMode.decode (datum : Datum) : Decoded EntryMode := do
  let name ← datum.asVariant (EntryMode.all.map EntryMode.name)
  RecordShape.demand name (EntryMode.all.find? fun mode => mode.name == name)

def EntryMode.encode (mode : EntryMode) : Datum := .text mode.name

def Capability.shape : RecordShape (List (String × Bool)) Capability where
  name := "Capability"
  fields := (Capability.operations {}).map fun operation =>
    (operation.1, fun datum seen => do
      let offered ← datum.asTruth
      .ok ((operation.1, offered) :: seen))
  start := []
  finish := fun seen => do
    let read ← RecordShape.demand "read" (seen.lookup "read")
    let write ← RecordShape.demand "write" (seen.lookup "write")
    let list ← RecordShape.demand "list" (seen.lookup "list")
    let stat ← RecordShape.demand "stat" (seen.lookup "stat")
    let delete ← RecordShape.demand "delete" (seen.lookup "delete")
    let presign ← RecordShape.demand "presign" (seen.lookup "presign")
    .ok ⟨read, write, list, stat, delete, presign⟩
  tooShort := some "struct Capability with 6 elements"

def Capability.decode (rules : DataRules) : Datum → Decoded Capability :=
  Capability.shape.read rules

def Capability.encode (capability : Capability) : Datum :=
  .mapping (capability.operations.map fun operation => (operation.1, .truth operation.2))

/-! ## Entries -/

structure TimestampParts where
  seconds : Option Nat := none
  nanos : Option Nat := none

/-- A time is written as its distance from the start of 1970; the distance must fit a signed count
of seconds once its nanoseconds are carried. -/
def Timestamp.shape : RecordShape TimestampParts (Nat × Nat) where
  name := "SystemTime"
  fields :=
    [("secs_since_epoch", fun datum parts => do
        let seconds ← datum.asBelow UInt64.size "u64"
        .ok { parts with seconds := some seconds }),
      ("nanos_since_epoch", fun datum parts => do
        let nanos ← datum.asBelow UInt32.size "u32"
        .ok { parts with nanos := some nanos })]
  start := {}
  finish := fun parts => do
    let seconds ← RecordShape.demand "secs_since_epoch" parts.seconds
    let nanos ← RecordShape.demand "nanos_since_epoch" parts.nanos
    if UInt64.size ≤ seconds + nanos / 1000000000 then
      Decoded.misfit (.refused "overflow deserializing SystemTime epoch offset")
    else .ok (seconds, nanos)
  tooShort := some "struct SystemTime"
  closed := true

def Timestamp.decode (rules : DataRules) (datum : Datum) : Decoded Timestamp := do
  let (seconds, nanos) ← Timestamp.shape.read rules datum
  let time := Timestamp.ofParts seconds nanos
  if Int64.maxValue.toInt < time.seconds then
    Decoded.misfit (.refused "overflow deserializing SystemTime")
  else .ok time

/-- A time before 1970 has no data form. -/
def Timestamp.encode (time : Timestamp) : Except String Datum :=
  match time.sinceEpoch? with
  | none => .error "SystemTime must be later than UNIX_EPOCH"
  | some (seconds, nanos) =>
    .ok (.mapping [("secs_since_epoch", .integer seconds), ("nanos_since_epoch", .integer nanos)])

structure MetadataParts where
  mode : Option EntryMode := none
  contentLength : Option UInt64 := none
  etag : Option String := none
  lastModified : Option Timestamp := none

def Metadata.shape (rules : DataRules) : RecordShape MetadataParts Metadata where
  name := "Metadata"
  fields :=
    [("mode", fun datum parts => do
        let mode ← EntryMode.decode datum
        .ok { parts with mode := some mode }),
      ("content_length", fun datum parts => do
        let length ← datum.asBelow UInt64.size "u64"
        .ok { parts with contentLength := some (UInt64.ofNat length) }),
      ("etag", fun datum parts => do
        let etag ← datum.asOptional Datum.asText
        .ok { parts with etag := etag }),
      ("last_modified", fun datum parts => do
        let time ← datum.asOptional (Timestamp.decode rules)
        .ok { parts with lastModified := time })]
  start := {}
  finish := fun parts => do
    let mode ← RecordShape.demand "mode" parts.mode
    let length ← RecordShape.demand "content_length" parts.contentLength
    .ok ⟨mode, length, parts.etag, parts.lastModified⟩
  tooShort := some "struct Metadata with 4 elements"

def Metadata.decode (rules : DataRules) : Datum → Decoded Metadata :=
  (Metadata.shape rules).read rules

def Metadata.encode (metadata : Metadata) : Except String Datum := do
  let time ← match metadata.lastModified with
    | none => .ok .null
    | some time => time.encode
  .ok (.mapping
    [("mode", metadata.mode.encode),
      ("content_length", .integer metadata.contentLength.toNat),
      ("etag", (metadata.etag.map Datum.text).getD .null),
      ("last_modified", time)])

structure EntryParts where
  path : Option String := none
  metadata : Option Metadata := none

def Entry.shape (rules : DataRules) : RecordShape EntryParts Entry where
  name := "Entry"
  fields :=
    [("path", fun datum parts => do
        let path ← datum.asText
        .ok { parts with path := some path }),
      ("metadata", fun datum parts => do
        let metadata ← Metadata.decode rules datum
        .ok { parts with metadata := some metadata })]
  start := {}
  finish := fun parts => do
    let path ← RecordShape.demand "path" parts.path
    let metadata ← RecordShape.demand "metadata" parts.metadata
    .ok ⟨path, metadata⟩
  tooShort := some "struct Entry with 2 elements"

def Entry.decode (rules : DataRules) : Datum → Decoded Entry :=
  (Entry.shape rules).read rules

def Entry.encode (entry : Entry) : Except String Datum := do
  let metadata ← entry.metadata.encode
  .ok (.mapping [("path", .text entry.path), ("metadata", metadata)])

/-! ## Symbols -/

def SymbolValue.encode : SymbolValue → Except String Datum
  | text value => .ok (.text value)
  | fixedText value => .ok (.text value)
  | word32 value => .ok (.integer value.toNat)
  | signed64 value => .ok (.integer value.toInt)
  | truth value => .ok (.truth value)
  | errorKinds kinds => .ok (.sequence (kinds.map ErrorKind.encode))
  | capability value => .ok value.encode
  | entryMode mode => .ok mode.encode
  | entryModes modes => .ok (.sequence (modes.map EntryMode.encode))
  | metadata value => value.encode
  | entry value => value.encode
  | foreign typeName _ => .error s!"values of type {typeName} have no exchanged form"

/-! ## Settings -/

def ProviderSettings.shape : RecordShape ProviderSettings ProviderSettings where
  name := "ProviderSettings"
  fields :=
    [("enabled", fun datum settings => do
        let enabled ← datum.asTruth
        .ok { settings with enabled := enabled }),
      ("install_hint", fun datum settings => do
        let hint ← datum.asOptional Datum.asText
        .ok { settings with installHint := hint })]
  start := {}
  finish := .ok
  tooShort := none

def ProviderSettings.decode (rules : DataRules) : Datum → Decoded ProviderSettings :=
  ProviderSettings.shape.read rules

def ProviderSettings.encode (settings : ProviderSettings) : Datum :=
  .mapping
    [("enabled", .truth settings.enabled),
      ("install_hint", (settings.installHint.map Datum.text).getD .null)]

def LoggingConfig.shape : RecordShape LoggingConfig LoggingConfig where
  name := "LoggingConfig"
  fields :=
    [("level", fun datum _ => do
        let level ← datum.asText
        .ok ⟨level⟩)]
  start := {}
  finish := .ok
  tooShort := none

def LoggingConfig.decode (rules : DataRules) : Datum → Decoded LoggingConfig :=
  LoggingConfig.shape.read rules

def LoggingConfig.encode (logging : LoggingConfig) : Datum :=
  .mapping [("level", .text logging.level)]

def RouterConfig.shape (rules : DataRules) : RecordShape RouterConfig RouterConfig where
  name := "RouterConfig"
  fields :=
    [("primary", fun datum config => do
        let primary ← datum.asText
        .ok { config with primary := primary }),
      ("providers", fun datum config => do
        let providers ← datum.asMap (ProviderSettings.decode rules)
        .ok { config with providers := .ofList providers }),
      ("logging", fun datum config => do
        let logging ← LoggingConfig.decode rules datum
        .ok { config with logging := logging })]
  start := {}
  finish := .ok
  tooShort := none

def RouterConfig.decode (rules : DataRules) : Datum → Decoded RouterConfig :=
  (RouterConfig.shape rules).read rules

def RouterConfig.encode (config : RouterConfig) : Datum :=
  .mapping
    [("primary", .text config.primary),
      ("providers", .mapping (config.providers.entries.map fun entry =>
        (entry.1, entry.2.encode))),
      ("logging", config.logging.encode)]

end ServiceRouting
