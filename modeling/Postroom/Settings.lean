import Postroom.StartupError
import Postroom.Toml.Document
import Postroom.UserTable

namespace Postroom

/-!
# Settings

One document configures any component of the mail system. Each component
reads its own part; parts that it does not use may be missing, and keys that
nobody knows are ignored. A part may also be written as an array of its fields
in their order.
-/

/-- How much is logged, and where to besides standard output. -/
structure LogSettings where
  level : String
  file : Option String
  deriving Repr, DecidableEq

/-- Where a transfer server sends delivery reports. -/
structure CollectorTarget where
  host : String
  port : UInt16
  /-- How long an answer is waited for, in milliseconds. -/
  timeout : UInt64
  deriving Repr, DecidableEq

/-- The settings of a transfer server. -/
structure TransferSettings where
  host : String
  port : UInt16
  /-- How many connections are served at once. -/
  producers : UInt64
  /-- How many emails are relayed at once. -/
  consumers : UInt64
  queueCapacity : UInt64
  /-- In milliseconds. -/
  connectTimeout : UInt64
  /-- In milliseconds. -/
  readTimeout : UInt64
  collector : Option CollectorTarget
  deriving Repr, DecidableEq

/-- The settings of a mailbox server. -/
structure MailboxSettings where
  host : String
  domain : String
  submissionPort : UInt16
  accessPort : UInt16
  workers : UInt64
  users : UserTable

/-- The settings of a collector of delivery reports. -/
structure CollectorSettings where
  host : String
  port : UInt16
  deriving Repr, DecidableEq

/-- The settings of every component. -/
structure Settings where
  log : LogSettings
  transfer? : Option TransferSettings
  mailbox? : Option MailboxSettings
  collector? : Option CollectorSettings
  domains : DomainTable

namespace Settings

/-- The key under which a point in time passes for a table. -/
def momentKey : String :=
  "$__toml_private_datetime"

/-- The named parts of a value. -/
def namedParts? : Toml.Value → Option (List (String × Toml.Value))
  | .table entries =>
      some entries
  | .moment text =>
      some [(momentKey, .string text)]
  | _ =>
      none

/-- The fields of a value that is a table or an array of the fields in order. -/
def fields?
    (names : List String) :
    Toml.Value →
    Option (List (String × Toml.Value))
  | .array elements =>
      some (names.zip elements)
  | value =>
      namedParts? value

/-- A text. -/
def text? : Toml.Value → Option String
  | .string text =>
      some text
  | _ =>
      none

/-- A number below a limit. -/
def below? (limit : Nat) : Toml.Value → Option Nat
  | .integer number =>
      if 0 ≤ number ∧ number.toNat < limit then
        some number.toNat
      else
        none
  | _ =>
      none

/-- A port. -/
def port? (value : Toml.Value) : Option UInt16 :=
  (below? UInt16.size value).map UInt16.ofNat

/-- A count or a duration. -/
def count? (value : Toml.Value) : Option UInt64 :=
  (below? UInt64.size value).map UInt64.ofNat

/-- A field that has to be there. -/
def required
    (fields : List (String × Toml.Value))
    (name : String)
    (read : Toml.Value → Option α) :
    Option α :=
  (List.lookup name fields).bind read

/-- A field that has a value even when it is missing. -/
def withDefault
    (fields : List (String × Toml.Value))
    (name : String)
    (default : α)
    (read : Toml.Value → Option α) :
    Option α :=
  match List.lookup name fields with
  | none =>
      some default
  | some value =>
      read value

/-- A field that may be missing. -/
def optional
    (fields : List (String × Toml.Value))
    (name : String)
    (read : Toml.Value → Option α) :
    Option (Option α) :=
  withDefault fields name none fun value => (read value).map some

/-- A directory whose values are written as texts. -/
def directory?
    (read : String → Option α)
    (value : Toml.Value) :
    Option (Directory α) := do
  let entries ← (← namedParts? value).mapM fun (name, value) => do
    return (name, ← read (← text? value))
  return Directory.ofList entries

/-- The address of a server that can be reached from everywhere. -/
def everyHost : String :=
  "0.0.0.0"

def defaultLog : LogSettings :=
  ⟨"info", none⟩

def readLog (value : Toml.Value) : Option LogSettings := do
  let fields ← fields? ["level", "file"] value
  return {
    level := ← withDefault fields "level" defaultLog.level text?
    file := ← optional fields "file" text?
  }

def readTarget (value : Toml.Value) : Option CollectorTarget := do
  let fields ← fields? ["host", "port", "timeout_ms"] value
  return {
    host := ← required fields "host" text?
    port := ← required fields "port" port?
    timeout := ← withDefault fields "timeout_ms" 1000 count?
  }

def readTransfer (value : Toml.Value) : Option TransferSettings := do
  let fields ←
    fields?
      ["host", "port", "producer_workers", "consumer_workers",
        "queue_capacity", "connect_timeout_ms", "read_timeout_ms",
        "monitoring"]
      value
  return {
    host := ← withDefault fields "host" everyHost text?
    port := ← withDefault fields "port" 11000 port?
    producers := ← withDefault fields "producer_workers" 20 count?
    consumers := ← withDefault fields "consumer_workers" 10 count?
    queueCapacity := ← withDefault fields "queue_capacity" 100 count?
    connectTimeout :=
      ← withDefault fields "connect_timeout_ms" 5000 count?
    readTimeout := ← withDefault fields "read_timeout_ms" 10000 count?
    collector := ← optional fields "monitoring" readTarget
  }

def readMailbox (value : Toml.Value) : Option MailboxSettings := do
  let fields ←
    fields?
      ["host", "domain", "dmtp_port", "dmap_port", "workers", "users"]
      value
  return {
    host := ← withDefault fields "host" everyHost text?
    domain := ← required fields "domain" text?
    submissionPort := ← required fields "dmtp_port" port?
    accessPort := ← required fields "dmap_port" port?
    workers := ← withDefault fields "workers" 10 count?
    users := ← withDefault fields "users" .empty (directory? some)
  }

def readCollector (value : Toml.Value) : Option CollectorSettings := do
  let fields ← fields? ["host", "udp_port"] value
  return {
    host := ← withDefault fields "host" everyHost text?
    port := ← required fields "udp_port" port?
  }

/-- The settings that a document writes down. -/
def ofText? (text : String) : Option Settings := do
  let root ← Toml.ofText? text
  return {
    log := ← withDefault root "logging" defaultLog readLog
    transfer? := ← optional root "transfer" readTransfer
    mailbox? := ← optional root "mailbox" readMailbox
    collector? := ← optional root "monitoring" readCollector
    domains :=
      ← withDefault root "domains" .empty
        (directory? Authority.ofText?)
  }

/-- The part of a component, or the error that names the missing part. -/
def part
    (name : String)
    (found : Option α) :
    Except StartupError α :=
  match found with
  | none =>
      .error (.configuration ("missing [" ++ name ++ "] section"))
  | some value =>
      .ok value

/-- The settings of the transfer server. -/
def transfer (settings : Settings) : Except StartupError TransferSettings :=
  part "transfer" settings.transfer?

/-- The settings of the mailbox server. -/
def mailbox (settings : Settings) : Except StartupError MailboxSettings :=
  part "mailbox" settings.mailbox?

/-- The settings of the collector of delivery reports. -/
def collector (settings : Settings) : Except StartupError CollectorSettings :=
  part "monitoring" settings.collector?

end Settings

/-- Where a transfer server listens. -/
def TransferSettings.bindAddress (settings : TransferSettings) : String :=
  Authority.text ⟨settings.host, settings.port⟩

end Postroom
