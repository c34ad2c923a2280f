import Postroom.CommandLine.Program
import Postroom.Live.Collecting
import Postroom.Live.Relaying

namespace Postroom.Live

/-!
# Running components

A component binds its ports, works on threads of its own until it is stopped,
and then finishes what it has begun.
-/

/-- A component that is at work. -/
structure Running where
  /-- Stop, finish what was begun, and give the lines to print at the end. -/
  finish : IO (List String)

/-- Do some work on a thread of its own. -/
def inBackground (work : IO α) : BaseIO (Task (Except IO.Error α)) :=
  IO.asTask work Task.Priority.dedicated

/-- What some work gave. -/
def outcome (task : Task (Except IO.Error α)) : IO α := do
  IO.ofExcept (← IO.wait task)

/-- Serve submitting clients and relay their mail. -/
def startTransfer
    (log : Log)
    (settings : TransferSettings)
    (domains : DomainTable)
    (host : String)
    (port : UInt16) :
    IO Running := do
  let server ← listenAt host port
  let own := ofSystemSocket (← server.getSockName)
  let reporter? ← settings.collector.mapM Reporter.ofTarget
  let stop ← Std.CancellationToken.new
  let shared ←
    SharedRoom.shared transferRoom settings.queueCapacity.toNat
  let relaying : Relaying :=
    {
      log := log
      router := Relay.Router.atAddress domains (mailerAddress own.ip)
      reporter? := reporter?
      connectTimeout := settings.connectTimeout
      readTimeout := settings.readTimeout
    }
  let consuming ←
    inBackground (relaying.run shared settings.consumers.toNat)
  let serving : Serving Submission.Session :=
    ⟨"transfer", log, stop, shared, Wire.submission⟩
  let producing ←
    inBackground (serving.run server settings.producers.toNat)
  return ⟨do
    stop.cancel
    outcome producing
    Relaying.close shared
    outcome consuming
    log.write .info "transfer server stopped"
    return []⟩

/-- Keep mail for the users of a domain and show it to them. -/
def startMailbox
    (log : Log)
    (settings : MailboxSettings) :
    IO Running := do
  let submissions ← listenAt settings.host settings.submissionPort
  let accesses ← listenAt settings.host settings.accessPort
  let stop ← Std.CancellationToken.new
  let shared ←
    SharedRoom.shared
      ⟨.mailbox settings.domain, settings.users, .empty, []⟩ 1
  let ingest : Serving Submission.Session :=
    ⟨"mailbox submission", log, stop, shared, Wire.submission⟩
  let visits : Serving Access.Session :=
    ⟨"mailbox access", log, stop, shared, Wire.access⟩
  let ingesting ←
    inBackground (ingest.run submissions settings.workers.toNat)
  let visiting ←
    inBackground (visits.run accesses settings.workers.toNat)
  return ⟨do
    stop.cancel
    outcome ingesting
    outcome visiting
    log.write .info ("mailbox server of " ++ settings.domain ++ " stopped")
    return []⟩

/-- Collect delivery reports and print the counts at the end. -/
def startCollector
    (log : Log)
    (settings : CollectorSettings) :
    IO Running := do
  let socket ← receiveAt settings.host settings.port
  let place := ofSystemSocket (← socket.getSockName)
  let stop ← Std.CancellationToken.new
  log.write .info ("monitoring server collects at " ++ place.text)
  let collecting ←
    inBackground (collectDatagrams log stop socket .empty)
  return ⟨do
    stop.cancel
    let statistics ← outcome collecting
    log.write .debug "monitoring server has collected its last report"
    return CommandLine.countLines statistics.servers ++
      CommandLine.countLines statistics.addresses⟩

/-- Start a component. -/
def startComponent
    (component : CommandLine.Component)
    (log : Log)
    (settings : Settings) :
    ExceptT StartupError IO Running := do
  let attempt (start : IO Running) : ExceptT StartupError IO Running := do
    match ← start.toBaseIO with
    | .ok running =>
        return running
    | .error error =>
        throw (.io (reason error))
  match component with
  | .transfer =>
      let own ← MonadExcept.ofExcept settings.transfer
      attempt (startTransfer log own settings.domains
        (CommandLine.bareHost own.host) own.port)
  | .mailbox =>
      attempt (startMailbox log (← MonadExcept.ofExcept settings.mailbox))
  | .collector =>
      attempt (startCollector log (← MonadExcept.ofExcept settings.collector))

end Postroom.Live
