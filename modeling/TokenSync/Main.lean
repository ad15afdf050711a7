import Std.Async.DNS
import Std.Async.TCP
import Std.Async.Timer
import TokenSync.Agent.Wire
import TokenSync.Program

/-!
# The command

The program with its surroundings: arguments, variables and files are those of the process, the
agent is reached over the network, the report goes to standard output, and everything else that
is said goes to standard error. Only plain connections can be made, so an agent behind an encrypted
one is not reached.
-/
namespace TokenSync.Command

open Std.Async Std.Net

/-! ## Surroundings -/

/-- The variables of the process that are set, of those with these names. -/
def environment (names : List String) : IO (List (String × String)) :=
  names.filterMapM fun name => do return (← IO.getEnv name).map (name, ·)

/-- The content of a file that can be read. -/
def contentOf? (path : String) : IO (Option ByteArray) := do
  try return some (← IO.FS.readBinFile path) catch _ => return none

/-- What the process finds when it starts. Only the file that the options name is read, and only
the variables are looked up that stand for options or that the file asks for. -/
def surroundings (arguments : List String) : IO Surroundings := do
  let given ← environment (Switch.all.filterMap Switch.standIn?)
  match Invocation.read arguments (Keyed.get? given) with
  | .run options =>
    let content ← contentOf? (Program.path options)
    let text := (content.bind String.fromUTF8?).getD ""
    let asked ← environment (Template.names text)
    return ⟨arguments, Keyed.get? (given ++ asked), fun _ => content⟩
  | _ => return ⟨arguments, Keyed.get? given, fun _ => none⟩

/-! ## The agent -/

/-- An address at a port. -/
def socketAddress (port : UInt16) : IPAddr → SocketAddress
  | .v4 address => .v4 ⟨address, port⟩
  | .v6 address => .v6 ⟨address, port⟩

/-- A connection to the first address that takes one. -/
def connectTo : List SocketAddress → Async TCP.Socket.Client
  | [] => throw (IO.userError "unknown host")
  | address :: rest => do
    try
      let socket ← TCP.Socket.Client.mk
      socket.connect address
      return socket
    catch cause => if rest.isEmpty then throw cause else connectTo rest

/-- Everything that comes until the other side closes the connection. -/
partial def receive (socket : TCP.Socket.Client) (octets : ByteArray) : Async ByteArray := do
  match ← socket.recv? 65536 with
  | some more => receive socket (octets ++ more)
  | none => return octets

/-- What comes back for a request. -/
def exchange (connection : Connection) (request : Request) : Async ByteArray := do
  let addresses ← DNS.getAddrInfo connection.host (toString connection.port)
  let socket ← connectTo (addresses.toList.map (socketAddress connection.port))
  socket.send (request.octets connection)
  receive socket ByteArray.empty

/-- Fails when the time of a connection is over. -/
def timeLimit (connection : Connection) : Async ByteArray := do
  sleep (.ofNat connection.timeoutMs.toNat)
  throw (IO.userError "the time is over")

/-- The reply of the agent to a request. -/
def reply (connection : Connection) (request : Request) : IO Reply := do
  if connection.scheme = "http" then
    try
      let octets ← (Async.race (exchange connection request) (timeLimit connection)).block
      return Reply.ofOctets octets.toList
    catch cause => return .unreachable (toString cause)
  else return .unreachable "encrypted connections cannot be made"

/-- Follows a plan with the agent that it names. -/
def follow (plan : Plan) : IO Ending :=
  match plan with
  | .stop ending => return ending
  | .apply file => (Program.follow plan).holdWith (reply file.connection)

end TokenSync.Command

/-- Runs the program. -/
def main (arguments : List String) : IO UInt32 := do
  let start ← TokenSync.Command.surroundings arguments
  let ending ← TokenSync.Command.follow (TokenSync.Program.plan start)
  if let some document := ending.output then IO.println document.text
  if let some notice := ending.notice then IO.eprintln notice
  return ending.status.toUInt32
