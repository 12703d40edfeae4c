import RpiDashboard.Telemetry.RemoteDeviceRegistry

/-! The dashboard's receiver (`telemetry/udp_telemetry_receiver.cpp`).  Datagrams
are lost, repeated and reordered before they are queued on the socket; the
registry outlives the receiver. -/

namespace RpiDashboard.Telemetry

open Qt Protocol

structure UdpTelemetryReceiver where
  registry : RemoteDeviceRegistry
  socket : QUdpSocket := []
  sent : List (QByteArray × Endpoint) := []
  accepted : UInt64 := 0
  dropped : UInt64 := 0
  scheduled : Bool := false

namespace UdpTelemetryReceiver

variable (qt : QtCbor)

def batchSize : Nat := 32

def drop (u : UdpTelemetryReceiver) : UdpTelemetryReceiver := { u with dropped := u.dropped + 1 }

/-- The calls of the receiver leave the time argument at its default. -/
def clocked (call : Call) : Call := { call with nowMs := -1 }

def answer (hello : Hello) (reason : QString) : RegistrationResult where
  deviceId := hello.deviceId
  instanceId := hello.instanceId
  accepted := reason = ""
  reason := reason

def processHello (u : UdpTelemetryReceiver) (hello : Hello) (sender : Endpoint) (call : Call) :
    UdpTelemetryReceiver :=
  let (reason, registry) := u.registry.registerHello qt hello sender.address sender.port call
  let response := encodeMessage qt (.registrationResult (answer hello reason))
  { u with
    registry := registry
    sent := u.sent ++ [(response, sender)]
    accepted := u.accepted + 1 }

def processSnapshot (u : UdpTelemetryReceiver) (snapshot : DeviceSnapshot) (sender : Endpoint)
    (call : Call) : UdpTelemetryReceiver :=
  match u.registry.acceptSnapshot qt snapshot sender.address sender.port call with
  | (true, registry) => { u with registry := registry, accepted := u.accepted + 1 }
  | (false, registry) => { u with registry := registry }.drop

/-- The body of the loop, for what `receiveDatagram` returned. -/
def process (u : UdpTelemetryReceiver) (received : Option QNetworkDatagram) (call : Call) :
    UdpTelemetryReceiver :=
  match received with
  | none => u.drop
  | some datagram =>
    if datagram.data.length > maximumDatagramSize then u.drop
    else
      match (decodeMessage qt datagram.data).message with
      | some (.hello hello) => processHello qt u hello datagram.sender (clocked call)
      | some (.snapshot snapshot) => processSnapshot qt u snapshot datagram.sender (clocked call)
      | _ => u.drop

def processLoop (calls : Nat → Call) : Nat → UdpTelemetryReceiver → UdpTelemetryReceiver
  | 0, u => u
  | n + 1, u =>
    match u.socket with
    | [] => u
    | received :: socket =>
      processLoop calls n (process qt { u with socket := socket }
        (received.map fun datagram => datagram.truncate (maximumDatagramSize + 1)) (calls n))

def processPendingDatagrams (u : UdpTelemetryReceiver) (calls : Nat → Call) :
    UdpTelemetryReceiver :=
  let u := processLoop qt calls batchSize u
  { u with scheduled := !u.socket.isEmpty }

/-- What happens to the receiver and its registry. -/
inductive Input
  | arrival : Option QNetworkDatagram → Input
  | readyRead : (Nat → Call) → Input
  | timeout : Call → Input
  | forgetDevice : QUuid → Call → Input

def step (u : UdpTelemetryReceiver) : Input → UdpTelemetryReceiver
  | .arrival received => { u with socket := u.socket ++ [received] }
  | .readyRead calls => processPendingDatagrams qt u calls
  | .timeout call => { u with registry := u.registry.updateFreshness (clocked call) }
  | .forgetDevice deviceId call =>
    { u with registry := (u.registry.forgetDevice qt deviceId (clocked call)).2 }

/-- What the receiver asks of the registry for a datagram. -/
def request (received : Option QNetworkDatagram) (call : Call) : List Event :=
  match received with
  | none => []
  | some datagram =>
    if datagram.data.length > maximumDatagramSize then []
    else
      match (decodeMessage qt datagram.data).message with
      | some (.hello hello) => [⟨.registerHello hello datagram.sender, clocked call⟩]
      | some (.snapshot snapshot) => [⟨.acceptSnapshot snapshot datagram.sender, clocked call⟩]
      | _ => []

def loopRequests (calls : Nat → Call) : Nat → QUdpSocket → List Event
  | 0, _ => []
  | _ + 1, [] => []
  | n + 1, received :: socket =>
    request qt (received.map fun datagram => datagram.truncate (maximumDatagramSize + 1)) (calls n) ++
      loopRequests calls n socket

/-- The registry's share of an input. -/
def requests (u : UdpTelemetryReceiver) : Input → List Event
  | .arrival _ => []
  | .readyRead calls => loopRequests qt calls batchSize u.socket
  | .timeout call => [⟨.updateFreshness, clocked call⟩]
  | .forgetDevice deviceId call => [⟨.forgetDevice deviceId, clocked call⟩]

end UdpTelemetryReceiver

end RpiDashboard.Telemetry
