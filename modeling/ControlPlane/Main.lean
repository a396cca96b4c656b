import ControlPlane.CommandLine.Run
import ControlPlane.Http
import Std.Async.DNS
import Std.Async.TCP

/-!
# The program

Carries out a plan against the network: requests travel over plain HTTP, one connection each, and
the commands of a batch are shared out among threads. What is to be done, and how it ends, is
decided by the plan.
-/
namespace ControlPlane.Program

open Std.Async (Async)

/-! ## Time -/

/-- The present. -/
def present : IO Instant := do
  let now ← Std.Time.Timestamp.now
  return ⟨now.toNanosecondsSinceUnixEpoch.toInt.toNat⟩

/-- Lets time pass. -/
def pause (span : Duration) : IO Unit :=
  IO.sleep (UInt32.ofNat ((span.nanoseconds + 999999) / 1000000))

/-- Waits until an instant. -/
def waitUntil (instant : Instant) : IO Unit := do
  pause (instant.since (← present))

/-- Waits for a task, but not beyond an instant. -/
partial def awaitUntil {α : Type} (cutoff : Instant) (task : Task α) : IO (Option α) := do
  if ← IO.hasFinished task then return some task.get
  else if cutoff ≤ (← present) then return none
  else
    IO.sleep 1
    awaitUntil cutoff task

/-! ## Requests -/

/-- The addresses of a host. -/
def addressesOf (host : String) : Async (List Std.Net.IPAddr) := do
  let bare := String.ofList (host.toList.filter fun c => c != '[' && c != ']')
  match Std.Net.IPv4Addr.ofString bare, Std.Net.IPv6Addr.ofString bare with
  | some address, _ => return [.v4 address]
  | none, some address => return [.v6 address]
  | none, none =>
    try
      return (← Std.Async.DNS.getAddrInfo bare "").toList
    catch _ => return []

/-- An address with a port. -/
def socketAddress (port : Nat) : Std.Net.IPAddr → Std.Net.SocketAddress
  | .v4 address => .v4 ⟨address, UInt16.ofNat port⟩
  | .v6 address => .v6 ⟨address, UInt16.ofNat port⟩

/-- Connects to the first address that answers. -/
def connectToAny (port : Nat) :
    List Std.Net.IPAddr → Async (Option Std.Async.TCP.Socket.Client)
  | [] => return none
  | address :: rest => do
    try
      let socket ← Std.Async.TCP.Socket.Client.mk
      socket.connect (socketAddress port address)
      return some socket
    catch _ => connectToAny port rest

/-- Everything that arrives until the other side closes the connection. -/
partial def receiveAll (socket : Std.Async.TCP.Socket.Client) (received : ByteArray) :
    Async ByteArray := do
  match ← socket.recv? 65536 with
  | some bytes => receiveAll socket (received ++ bytes)
  | none => return received

/-- Sends a request and reads the reply. -/
def exchange (url : Url) : Async Delivery := do
  match ← addressesOf url.host with
  | [] => return .failed (.unresolvedHost url.text)
  | addresses =>
    if url.scheme != "http" then return .failed (.unreachable url.text)
    match ← connectToAny (Http.portOf url) addresses with
    | none => return .failed (.unreachable url.text)
    | some socket =>
      try
        socket.send (Http.requestText url).toUTF8
        let received ← receiveAll socket .empty
        match Http.readReply received.toList with
        | some (status, body) => return .reply status body
        | none => return .failed (.closedEarly url.text)
      catch _ => return .failed (.closedEarly url.text)

/-- Delivers a request. -/
def deliver (request : Request) : IO Delivery := do
  let cutoff := (← present).later request.patience
  let task ← IO.asTask (exchange request.url).block .dedicated
  match ← awaitUntil cutoff task with
  | some (.ok delivery) => return delivery
  | some (.error _) => return .failed (.closedEarly request.url.text)
  | none => return .late

/-! ## Plans -/

/-- A letter at random. -/
def drawLetter : IO (Fin 62) := do
  let index ← IO.rand 0 61
  return ⟨index % 62, Nat.mod_lt index (by decide)⟩

/-- Carries on a dialogue to its end. -/
def converse {α : Type} : Dialogue α → IO (Option α)
  | .done a => return some a
  | .broken => return none
  | .send request next => do
    let delivery ← deliver request
    converse (next delivery)
  | .readClock next => do
    let now ← present
    converse (next now)
  | .wait span next => do
    pause span
    converse next
  | .draw next => do
    let letter ← drawLetter
    converse (next letter)

/-- Takes up pieces of work, in order, until there are none left. -/
partial def work (schedule : Schedule) (board : IO.Ref (List (Stage JobOutcome)))
    (taken : IO.Ref Nat) : IO Unit := do
  let index ← taken.modifyGet fun n => (n, n + 1)
  match (← board.get)[index]? with
  | some (.upcoming dialogue) =>
    waitUntil (schedule.submission index)
    let outcome ← converse dialogue
    board.modify fun stages => stages.set index (.ended outcome)
    work schedule board taken
  | _ => return

/-- Runs a batch. -/
def runBatch (runner : JobRunner) (commands : List Command) (workers : Nat)
    (interval : Duration) : IO (Option BatchReport) := do
  let start ← present
  match runner.schedule? commands.length workers interval start with
  | none => return none
  | some schedule =>
    let board ← IO.mkRef (runner.stagesFrom 0 commands)
    let taken ← IO.mkRef 0
    let hands := min schedule.workers commands.length
    let tasks ← (List.range hands).mapM fun _ => IO.asTask (work schedule board taken) .dedicated
    for task in tasks do
      discard <| awaitUntil schedule.cutoff task
    let stages ← board.get
    return some (JobRunner.report start (← present) commands stages)

/-- Carries out a plan. -/
def carryOut : CommandLine.Plan → IO CommandLine.Exit
  | .finish exit => return exit
  | .converse dialogue => do
    let exit ← converse dialogue
    return exit.getD .brokenOff
  | .batch runner commands workers interval conclude => do
    match ← runBatch runner commands workers interval with
    | some report => return conclude report
    | none => return .brokenOff

/-! ## Surroundings -/

/-- The variables that the program looks at. -/
def variableNames : List String :=
  ["STRATUS_CONFIG", "STRATUS_MGMT_SCHEME", "STRATUS_MGMT_HOST", "STRATUS_MGMT_PORT",
    "STRATUS_MGMT_PATH", "STRATUS_MGMT_USER", "STRATUS_MGMT_PASSWORD", "STRATUS_API_KEY",
    "STRATUS_SECRET_KEY", "STRATUS_DB_HOST", "STRATUS_DB_PORT", "STRATUS_DB_USER",
    "STRATUS_DB_PASSWORD", "STRATUS_DB_NAME", "STRATUS_ASYNC_TIMEOUT", "STRATUS_WORKER_THREADS",
    "STRATUS_HYPERVISOR"]

/-- What stands at a path. -/
def fileAt (path : String) : IO CommandLine.FileState := do
  try
    return .text (← IO.FS.readFile ⟨path⟩)
  catch
    | .noFileOrDirectory _ _ _ => return .absent .noSuchFile
    | .inappropriateType _ 20 _ => return .absent .notDirectory
    | .invalidArgument _ 36 _ => return .absent .nameTooLong
    | error => return .unreadable (toString error)

/-- Pairs names with what is found under them. -/
def gather {α : Type} (find : String → IO α) (names : List String) : IO (List (String × α)) :=
  names.mapM fun name => do return (name, ← find name)

/-- The path of the settings that arguments name. -/
def namedPath (arguments : List String) : List String :=
  match CommandLine.Arguments.read arguments with
  | .ok arguments => arguments.configPath.toList
  | .error _ => []

/-- Everything around the program that matters for some arguments. -/
def surroundings (arguments : List String) : IO CommandLine.Surroundings := do
  let found ← gather (fun name => IO.getEnv name) variableNames
  let environment : Variables := fun name => (found.lookup name).join
  let usual := (⟨environment, fun _ => .absent .noSuchFile⟩ : CommandLine.Surroundings).usualPaths
  let files ← gather fileAt (namedPath arguments ++ usual)
  return ⟨environment, fun path => (files.lookup path).getD (.absent .noSuchFile)⟩

end ControlPlane.Program

/-- Runs the program. -/
def main (arguments : List String) : IO UInt32 := do
  let around ← ControlPlane.Program.surroundings arguments
  let exit ← ControlPlane.Program.carryOut (ControlPlane.CommandLine.plan around arguments)
  IO.print exit.out
  IO.eprint exit.err
  return UInt32.ofNat exit.code
