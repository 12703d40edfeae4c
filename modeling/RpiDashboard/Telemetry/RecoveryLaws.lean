import RpiDashboard.Telemetry.AgreementLaws
import RpiDashboard.Telemetry.IdentityLaws

/-! From every state of a deployment, one pass of a daemon that the network leaves alone brings
its device online with what the pass has measured. -/

namespace RpiDashboard.Telemetry

open Qt Protocol RemoteDeviceRegistry UdpTelemetryReceiver

/-- The registry has no reason to turn a hello down. -/
structure RemoteDeviceRegistry.Admits (r : RemoteDeviceRegistry) (hello : Hello)
    (address : QHostAddress) (current : Int) : Prop where
  known : ∀ item ∈ r.device hello.deviceId, (item.refresh current).competes hello address = false
  unknown : r.device hello.deviceId = none → r.hasRoom = true

/-- An entry that shows a daemon's latest snapshot. -/
structure Device.Shows (item : Device) (snapshot : DeviceSnapshot) (source : Endpoint) : Prop where
  state : item.state = .online
  instanceId : item.instanceId = snapshot.instanceId
  address : item.address = source.address
  port : item.port = source.port
  interval : item.intervalSeconds = snapshot.intervalSeconds
  lastSequence : item.lastSequence = some snapshot.sequence
  systemInfo : item.systemInfo = snapshot.systemInfo
  metrics : item.metrics = snapshot.metrics

section Registry

variable {qt : QtCbor} {r : RemoteDeviceRegistry} {hello : Hello} {sender : Endpoint} {call : Call}

theorem registerHello_admitted (h : r.Admits hello sender.address call.now) :
    (r.registerHello qt hello sender.address sender.port call).1 = "" := by
  cases hd : r.device hello.deviceId with
  | none => rw [registerHello_unknown _ _ _ _ hd, if_pos (h.unknown hd)]
  | some item =>
    rw [registerHello_known _ _ _ _ hd, if_neg]
    simp [h.known item hd]

/-- What an admitted hello leaves in the registry; the last number is kept for the same instance. -/
theorem device_of_admitted (qt : QtCbor) (h : r.Admits hello sender.address call.now) :
    ∃ item, (r.registerHello qt hello sender.address sender.port call).2.device hello.deviceId =
        some item ∧
      item.instanceId = hello.instanceId ∧ item.address = sender.address ∧
      item.port = sender.port ∧ item.intervalSeconds = hello.intervalSeconds ∧
      ∀ n ∈ item.lastSequence, ∃ before ∈ r.device hello.deviceId,
        before.instanceId = hello.instanceId ∧ before.lastSequence = some n := by
  rw [device_registerHello]
  cases hd : r.device hello.deviceId with
  | none =>
    refine ⟨.ofHello hello sender.address sender.port, ?_, rfl, rfl, rfl, rfl, by simp [Device.ofHello]⟩
    simp [lifecycle, h.unknown hd]
  | some item =>
    have hc := h.known item hd
    refine ⟨(item.refresh call.now).register hello sender.address sender.port, ?_, ?_⟩
    · simp [lifecycle, hc]
    · by_cases hsame : (item.refresh call.now).instanceId = hello.instanceId
      · rw [Device.register_same _ _ hsame]
        refine ⟨hsame, rfl, rfl, rfl, fun n hn => ⟨item, rfl, ?_, ?_⟩⟩
        · rwa [Device.instanceId_refresh] at hsame
        · simpa using hn
      · rw [Device.register_other _ _ hsame]
        exact ⟨rfl, rfl, rfl, rfl, by simp [Device.ofHello]⟩

theorem device_of_accepted {snapshot : DeviceSnapshot} {item : Device}
    (hd : r.device snapshot.deviceId = some item)
    (hc : item.rejects snapshot sender.address sender.port = false) :
    (r.acceptSnapshot qt snapshot sender.address sender.port call).2.device snapshot.deviceId =
      some (item.apply snapshot call.now call.utc) := by
  rw [device_acceptSnapshot, hd]
  simp [lifecycle, hc]

theorem rejects_eq_false {snapshot : DeviceSnapshot} {item : Device}
    (hinstance : item.instanceId = snapshot.instanceId) (haddress : item.address = sender.address)
    (hport : item.port = sender.port) (hinterval : item.intervalSeconds = snapshot.intervalSeconds)
    (hsequence : ∀ n ∈ item.lastSequence, n < snapshot.sequence) :
    item.rejects snapshot sender.address sender.port = false := by
  cases hn : item.lastSequence with
  | none => simp [Device.rejects, hinstance, haddress, hport, hinterval, hn]
  | some n =>
    simp [Device.rejects, hinstance, haddress, hport, hinterval, hn,
      UInt64.not_le.mpr (hsequence n hn)]

end Registry

section Receiver

variable {qt : QtCbor} {p : Process} {u : UdpTelemetryReceiver} {calls : Nat → Call}
  {source : Endpoint}

/-- The time of the first datagram of a turn of the event loop. -/
def firstCall (calls : Nat → Call) : Call := calls batchSize.pred

/-- A turn of the event loop with one datagram in the queue. -/
theorem readyRead_single (qt : QtCbor) (calls : Nat → Call) {datagram : QNetworkDatagram}
    (h : u.socket = [some datagram]) :
    (UdpTelemetryReceiver.step qt u (.readyRead calls)).socket = [] ∧
      (UdpTelemetryReceiver.step qt u (.readyRead calls)).registry =
        (process qt { u with socket := [] } (some (datagram.truncate (maximumDatagramSize + 1)))
          (firstCall calls)).registry ∧
      (UdpTelemetryReceiver.step qt u (.readyRead calls)).sent =
        (process qt { u with socket := [] } (some (datagram.truncate (maximumDatagramSize + 1)))
          (firstCall calls)).sent := by
  have hloop : processLoop qt calls batchSize u = process qt { u with socket := [] }
      (some (datagram.truncate (maximumDatagramSize + 1))) (firstCall calls) := by
    rw [batchSize, processLoop, h]
    dsimp only [Option.map_some]
    rw [processLoop, socket_process]
    rfl
  simp only [UdpTelemetryReceiver.step, processPendingDatagrams, hloop, socket_process, and_self]

theorem process_hello (hqt : qt.Rfc8949) (hv : p.hello.Valid)
    (hs : (p.data .hello).length ≤ maximumDatagramSize) (call : Call) :
    process qt u (some (QNetworkDatagram.truncate ⟨p.data .hello, source⟩
        (maximumDatagramSize + 1))) call = processHello qt u p.hello source (clocked call) := by
  have htake : (p.data .hello).take (maximumDatagramSize + 1) = p.data .hello :=
    List.take_of_length_le (by omega)
  have hdecoded : (decodeMessage qt (p.data .hello)).message = some (.hello p.hello) :=
    (p.message_data hqt (by simp)).mpr ⟨rfl, hv, hs⟩
  simp only [process, QNetworkDatagram.truncate, htake, if_neg (Nat.not_lt.mpr hs), hdecoded]

theorem process_snapshot (hqt : qt.Rfc8949) {seq : UInt64} {m : Option Measured}
    (hv : (p.snapshot seq m).Valid) (hs : (p.data (.snapshot seq m)).length ≤ maximumDatagramSize)
    (call : Call) :
    process qt u (some (QNetworkDatagram.truncate ⟨p.data (.snapshot seq m), source⟩
        (maximumDatagramSize + 1))) call =
      processSnapshot qt u (p.snapshot seq m) source (clocked call) := by
  have htake : (p.data (.snapshot seq m)).take (maximumDatagramSize + 1) = p.data (.snapshot seq m) :=
    List.take_of_length_le (by omega)
  have hdecoded : (decodeMessage qt (p.data (.snapshot seq m))).message =
      some (.snapshot (p.snapshot seq m)) := by
    refine (p.message_data hqt ?_).mpr ⟨rfl, hv, hs⟩
    rintro _ _ ⟨⟩
    exact hv.sequence
  simp only [process, QNetworkDatagram.truncate, htake, if_neg (Nat.not_lt.mpr hs), hdecoded]

theorem registry_processSnapshot (snapshot : DeviceSnapshot) (call : Call) :
    (processSnapshot qt u snapshot source call).registry =
      (u.registry.acceptSnapshot qt snapshot source.address source.port call).2 := by
  rw [processSnapshot]
  split
  · next h => rw [h]
  · next h =>
    rw [h]
    rfl

end Receiver

namespace Deployment

section Steps

variable {ι : Type} [DecidableEq ι] {qt : QtCbor} {daemons : ι → Process} {s : Deployment ι}
  {k : ι} {source : Endpoint}

theorem step_send (h : s.sockets k = none) : s.step qt daemons (.send k source) = { s with
    sockets := Function.update s.sockets k (some source)
    wire := s.wire ++ [⟨k, source, .hello⟩] } := by
  simp [step, passes, socketsAfter, sent, receiverAfter, inputs, h]

theorem step_deliver {n : Nat} {p : Packet ι} (h : s.wire[n]? = some p) :
    s.step qt daemons (.deliver n) = { s with
      receiver := { s.receiver with
        socket := s.receiver.socket ++ [some (p.datagram daemons)] } } := by
  simp [step, passes, socketsAfter, sent, receiverAfter, inputs, h, UdpTelemetryReceiver.step]

theorem step_readyRead (calls : Nat → Call) : s.step qt daemons (.readyRead calls) = { s with
    receiver := s.receiver.step qt (.readyRead calls) } := by
  simp [step, passes, socketsAfter, sent, receiverAfter, inputs]

theorem receiver_step_receive (answer : Option Nat) (m : Option Measured) :
    (s.step qt daemons (.receive k answer m)).receiver = s.receiver := rfl

theorem wire_step_receive (qt : QtCbor) (daemons : ι → Process) {answer : Option Nat}
    (m : Option Measured) (hopen : s.sockets k = some source)
    (hr : Daemon.readsAccepted (Daemon.recv (answer.bind (s.reply source))) = true) :
    (s.step qt daemons (.receive k answer m)).wire =
      s.wire ++ [⟨k, source, .snapshot (s.loops k).seq m⟩] := by
  simp [step, sent, hopen, hr]

end Steps

/-- A pass whose three datagrams all arrive, one after the other. -/
def cleanPass {ι : Type} (s : Deployment ι) (k : ι) (source : Endpoint) (m : Option Measured)
    (calls calls' : Nat → Call) : List (Action ι) :=
  [.send k source, .deliver s.wire.length, .readyRead calls,
    .receive k (some s.receiver.sent.length) m, .deliver (s.wire.length + 1), .readyRead calls']

section Passes

variable {ι : Type} [DecidableEq ι] {qt : QtCbor} {daemons : ι → Process} {s : Deployment ι}
  {k : ι} {source : Endpoint} {m : Option Measured} {calls calls' : Nat → Call}

/-- The hello of a clean pass: the dashboard registers it and says so. -/
theorem receiver_hello (hqt : qt.Rfc8949) (hquiet : s.receiver.socket = [])
    (hv : (daemons k).hello.Valid)
    (hs : ((daemons k).data .hello).length ≤ maximumDatagramSize)
    (hadmits : s.receiver.registry.Admits (daemons k).hello source.address
      (clocked (firstCall calls)).now) (hclosed : s.sockets k = none) :
    let s' := run (step qt daemons) s [.send k source, .deliver s.wire.length, .readyRead calls]
    s'.sockets k = some source ∧ s'.loops = s.loops ∧
      s'.wire = s.wire ++ [⟨k, source, .hello⟩] ∧ s'.receiver.socket = [] ∧
      s'.receiver.registry = (s.receiver.registry.registerHello qt (daemons k).hello source.address
        source.port (clocked (firstCall calls))).2 ∧
      s'.receiver.sent = s.receiver.sent ++
        [(Daemon.replyOf qt (answer (daemons k).hello ""), source)] := by
  have hwire : (s.wire ++ [⟨k, source, .hello⟩])[s.wire.length]? = some ⟨k, source, .hello⟩ := by
    simp
  rw [run_cons, run_cons, run_cons, run_nil, step_send hclosed, step_deliver hwire, step_readyRead]
  rw [hquiet, List.nil_append]
  obtain ⟨hsocket, hregistry, hsent⟩ := readyRead_single qt calls
    (show UdpTelemetryReceiver.socket { s.receiver with
      socket := [some (Packet.datagram daemons ⟨k, source, .hello⟩)] } = _ from rfl)
  refine ⟨Function.update_self .., rfl, rfl, hsocket, ?_, ?_⟩
  · rw [hregistry, Packet.datagram, process_hello hqt hv hs]
    rfl
  · rw [hsent, Packet.datagram, process_hello hqt hv hs, processHello]
    dsimp only
    rw [registerHello_admitted hadmits]
    rfl

/-- The snapshot of a clean pass: the registry, which knows its socket by then, shows it. -/
theorem receiver_snapshot (hqt : qt.Rfc8949) (hquiet : s.receiver.socket = []) {seq : UInt64}
    (hv : ((daemons k).snapshot seq m).Valid)
    (hs : ((daemons k).data (.snapshot seq m)).length ≤ maximumDatagramSize) {n : Nat}
    (hwire : s.wire[n]? = some ⟨k, source, .snapshot seq m⟩) {item : Device}
    (hd : s.receiver.registry.device ((daemons k).snapshot seq m).deviceId = some item)
    (hc : item.rejects ((daemons k).snapshot seq m) source.address source.port = false) :
    (run (step qt daemons) s [.deliver n, .readyRead calls']).receiver.registry.device
        ((daemons k).snapshot seq m).deviceId =
      some (item.apply ((daemons k).snapshot seq m) (clocked (firstCall calls')).now
        (firstCall calls').utc) := by
  rw [run_cons, run_cons, run_nil, step_deliver hwire, step_readyRead, hquiet, List.nil_append]
  obtain ⟨-, hregistry, -⟩ := readyRead_single qt calls'
    (show UdpTelemetryReceiver.socket { s.receiver with
      socket := [some (Packet.datagram daemons ⟨k, source, .snapshot seq m⟩)] } = _ from rfl)
  dsimp only
  rw [hregistry, Packet.datagram, process_snapshot hqt hv hs, registry_processSnapshot]
  exact device_of_accepted hd hc

/-- In a state whose numbers and entries are in order, a clean pass that the dashboard admits
leaves the device online, with what the pass has measured. -/
theorem shows_cleanPass (hqt : qt.Rfc8949)
    (hinst : ∀ j k, (daemons j).instanceId = (daemons k).instanceId → j = k) {n : Nat}
    (hnumbered : s.Numbered n) (htraced : s.receiver.Traced daemons s.wire)
    (hclosed : s.sockets k = none) (hquiet : s.receiver.socket = [])
    (hhello : (daemons k).hello.Valid)
    (hhellofits : ((daemons k).data .hello).length ≤ maximumDatagramSize)
    (hsnapshot : ((daemons k).snapshot (s.loops k).seq m).Valid)
    (hsnapshotfits : ((daemons k).data (.snapshot (s.loops k).seq m)).length ≤ maximumDatagramSize)
    (hadmits : s.receiver.registry.Admits (daemons k).hello source.address
      (clocked (firstCall calls)).now) :
    ∃ item, (run (step qt daemons) s (s.cleanPass k source m calls calls')).receiver.registry.device
        (daemons k).hello.deviceId = some item ∧
      item.Shows ((daemons k).snapshot (s.loops k).seq m) source := by
  have hsplit : s.cleanPass k source m calls calls' =
      [.send k source, .deliver s.wire.length, .readyRead calls] ++
        (.receive k (some s.receiver.sent.length) m :: [.deliver (s.wire.length + 1),
          .readyRead calls']) := rfl
  rw [hsplit, run_append, run_cons]
  obtain ⟨hsocket, hloops, hwire, hempty, hregistry, hsent⟩ :=
    receiver_hello hqt hquiet hhello hhellofits hadmits hclosed
  generalize run (step qt daemons) s
    [.send k source, .deliver s.wire.length, .readyRead calls] = s' at *
  have hreply : s'.reply source s.receiver.sent.length =
      some (Daemon.replyOf qt (answer (daemons k).hello "")) := by
    simp [reply, hsent]
  have hread : Daemon.readsAccepted (Daemon.recv
      ((some s.receiver.sent.length).bind (s'.reply source))) = true := by
    have hlen : (Daemon.replyOf qt (answer (daemons k).hello "")).length ≤ 2048 :=
      length_replyOf_le hqt _ (by simp [reasons])
    rw [Option.bind_some, hreply, Daemon.readsAccepted_recv hlen, Daemon.mem_replyOf hqt hlen]
    exact .inl rfl
  have hwire' := wire_step_receive qt daemons m hsocket hread
  rw [hwire, hloops] at hwire'
  obtain ⟨item, hd, hinstance, haddress, hport, hinterval, hlast⟩ := device_of_admitted qt hadmits
  have hnewer : ∀ i ∈ item.lastSequence, i < (s.loops k).seq := by
    intro i hi
    obtain ⟨before, hbefore, hsame, hi⟩ := hlast i hi
    rcases htraced.registry.device _ before hbefore with hunclaimed | ⟨j, hj⟩
    · rw [hunclaimed.lastSequence] at hi
      cases hi
    · obtain rfl := hinst j k (toQUuid_injective (hj.instanceId.symm.trans hsame))
      rcases hj.metrics with ⟨hnone, -⟩ | ⟨seq, m', source', hmem, hseq, -⟩
      · rw [hnone] at hi
        cases hi
      · rw [hseq] at hi
        cases hi
        exact hnumbered.sent _ hmem _ m' rfl
  have hc : item.rejects ((daemons k).snapshot (s.loops k).seq m) source.address source.port = false :=
    rejects_eq_false hinstance haddress hport hinterval hnewer
  have hempty' : (s'.step qt daemons (.receive k (some s.receiver.sent.length) m)).receiver.socket =
      [] := hempty
  refine ⟨_, receiver_snapshot hqt hempty' hsnapshot hsnapshotfits ?_ ?_ hc, ?_⟩
  · rw [hwire']
    simp
  · rw [receiver_step_receive, hregistry]
    exact hd
  · exact ⟨rfl, hinstance, haddress, hport, hinterval, rfl, rfl, rfl⟩

/-- Whatever has happened before, to the network, the daemons or the dashboard: once the
dashboard's queue is empty, the first pass of a daemon whose datagrams all arrive brings its device
online with what the pass has measured, if the registry admits its hello. -/
theorem clean_pass_recovers (hqt : qt.Rfc8949) (daemons : ι → Process)
    (hinst : ∀ j k, (daemons j).instanceId = (daemons k).instanceId → j = k)
    (storage : StorageFile) (as : List (Action ι)) (h : as.length < 2 ^ 63) (k : ι)
    (source : Endpoint) (m : Option Measured) (calls calls' : Nat → Call) :
    let s := run (step qt daemons) (start qt storage) as
    s.sockets k = none → s.receiver.socket = [] →
    (daemons k).hello.Valid → ((daemons k).data .hello).length ≤ maximumDatagramSize →
    ((daemons k).snapshot (s.loops k).seq m).Valid →
    ((daemons k).data (.snapshot (s.loops k).seq m)).length ≤ maximumDatagramSize →
    s.receiver.registry.Admits (daemons k).hello source.address
      (clocked (firstCall calls)).now →
    ∃ item, (run (step qt daemons) s (s.cleanPass k source m calls calls')).receiver.registry.device
        (daemons k).hello.deviceId = some item ∧
      item.Shows ((daemons k).snapshot (s.loops k).seq m) source := by
  intro s hclosed hquiet hhello hhellofits hsnapshot hsnapshotfits hadmits
  exact shows_cleanPass hqt hinst (numbered_run storage h) (traced_run hqt hinst storage h) hclosed
    hquiet hhello hhellofits hsnapshot hsnapshotfits hadmits

end Passes

end Deployment

/-- The second pass, from another address. -/
theorem clean_pass_recovers_sample :
    ∃ item, (run (Deployment.step .reference fun _ => sampleProcess) sampleDeployment
        (sampleDeployment.cleanPass () rivalSender none (fun _ => {}) fun _ => {})
          ).receiver.registry.device sampleProcess.hello.deviceId = some item ∧
      item.Shows (sampleProcess.snapshot 1 none) rivalSender := by
  have hseq : (sampleDeployment.loops ()).seq = 1 := by decide +kernel
  have h := Deployment.clean_pass_recovers QtCbor.reference_rfc8949 (fun _ => sampleProcess)
    (fun _ _ _ => rfl) .missing samplePass (by decide) () rivalSender none (fun _ => {})
    (fun _ => {})
    (by decide +kernel) (by decide +kernel) (by decide +kernel) (by decide +kernel)
  rw [← hseq]
  exact h (by decide +kernel) (by decide +kernel) ⟨by decide +kernel, by decide +kernel⟩

end RpiDashboard.Telemetry
