import RpiDashboard.Telemetry.DeploymentLaws
import RpiDashboard.Telemetry.UdpTelemetryReceiverLaws

/-! Whatever the network does, all that the dashboard shows of a registered device was sent by
one start of a daemon, and its metrics in one pass of it. -/

namespace RpiDashboard.Telemetry

open Qt Protocol RemoteDeviceRegistry

/-- An entry that no daemon has registered since the dashboard was started. -/
structure Device.Unclaimed (item : Device) : Prop where
  instanceId : item.instanceId = .null
  address : item.address = .null
  lastSequence : item.lastSequence = none
  metrics : item.metrics = none

/-- An entry that says what its daemon has sent: a hello from the address it has, and the
snapshot with the number it has. -/
structure Device.SentBy {ι : Type} (daemons : ι → Process) (wire : List (Packet ι)) (k : ι)
    (item : Device) : Prop where
  deviceId : item.deviceId = (daemons k).deviceId.toQUuid
  instanceId : item.instanceId = (daemons k).instanceId.toQUuid
  displayName : item.displayName = (daemons k).hello.displayName
  interval : item.intervalSeconds = (daemons k).settings.intervalSeconds
  systemInfo : item.systemInfo = Daemon.systemInfoOf (daemons k).info
  source : ∃ source, ⟨k, source, .hello⟩ ∈ wire ∧
    item.address = source.address ∧ item.port = source.port
  metrics : (item.lastSequence = none ∧ item.metrics = none) ∨
    ∃ seq m source, ⟨k, source, .snapshot seq m⟩ ∈ wire ∧ item.lastSequence = some seq ∧
      item.metrics = m.map fun m => Daemon.metricsOf m.val

def Device.Traced {ι : Type} (daemons : ι → Process) (wire : List (Packet ι)) (item : Device) :
    Prop :=
  item.Unclaimed ∨ ∃ k, item.SentBy daemons wire k

/-- The hello or snapshot of an event is on the wire, as it was sent. -/
def Event.FromWire {ι : Type} (daemons : ι → Process) (wire : List (Packet ι)) (e : Event) : Prop :=
  match e.operation with
  | .registerHello hello sender => ∃ k, ⟨k, sender, .hello⟩ ∈ wire ∧ hello = (daemons k).hello
  | .acceptSnapshot snapshot sender =>
    ∃ k seq m, ⟨k, sender, .snapshot seq m⟩ ∈ wire ∧ snapshot = (daemons k).snapshot seq m
  | _ => True

theorem toQUuid_injective : Function.Injective Daemon.Uuid.toQUuid := by
  intro a b h
  have hlist : a.toList = b.toList := congrArg QUuid.toRfc4122 h
  exact Vector.toList_inj.mp hlist

section Entries

variable {ι : Type} {daemons : ι → Process} {wire : List (Packet ι)} {item : Device} {k : ι}

theorem Device.SentBy.mono (h : item.SentBy daemons wire k) (more : List (Packet ι)) :
    item.SentBy daemons (wire ++ more) k where
  deviceId := h.deviceId
  instanceId := h.instanceId
  displayName := h.displayName
  interval := h.interval
  systemInfo := h.systemInfo
  source := by
    obtain ⟨source, hm, hs⟩ := h.source
    exact ⟨source, List.mem_append_left _ hm, hs⟩
  metrics := by
    refine h.metrics.imp_right ?_
    rintro ⟨seq, m, source, hm, hs⟩
    exact ⟨seq, m, source, List.mem_append_left _ hm, hs⟩

theorem Device.Traced.mono (h : item.Traced daemons wire) (more : List (Packet ι)) :
    item.Traced daemons (wire ++ more) :=
  h.imp_right fun ⟨k, hk⟩ => ⟨k, hk.mono more⟩

theorem Device.Traced.refresh (h : item.Traced daemons wire) (current : Int) :
    (item.refresh current).Traced daemons wire := by
  rw [Device.refresh_eq]
  refine h.imp (fun h => ⟨h.instanceId, h.address, h.lastSequence, h.metrics⟩) ?_
  rintro ⟨k, h⟩
  exact ⟨k, h.deviceId, h.instanceId, h.displayName, h.interval, h.systemInfo, h.source, h.metrics⟩

theorem traced_ofHello {sender : Endpoint} (h : ⟨k, sender, .hello⟩ ∈ wire) :
    (Device.ofHello (daemons k).hello sender.address sender.port).Traced daemons wire :=
  .inr ⟨k, rfl, rfl, rfl, rfl, rfl, ⟨sender, h, rfl, rfl⟩, .inl ⟨rfl, rfl⟩⟩

/-- A hello makes the entry its daemon's; what was measured is kept for the same instance only. -/
theorem Device.Traced.register
    (hinst : ∀ j k, (daemons j).instanceId = (daemons k).instanceId → j = k)
    (h : item.Traced daemons wire) {sender : Endpoint} (hm : ⟨k, sender, .hello⟩ ∈ wire)
    (hid : (daemons k).hello.deviceId = item.deviceId) :
    (item.register (daemons k).hello sender.address sender.port).Traced daemons wire := by
  by_cases hsame : item.instanceId = (daemons k).hello.instanceId
  · rw [Device.register_same _ _ hsame]
    refine .inr ⟨k, hid.symm, hsame, rfl, rfl, rfl, ⟨sender, hm, rfl, rfl⟩, ?_⟩
    rcases h with h | ⟨j, h⟩
    · exact .inl ⟨h.lastSequence, h.metrics⟩
    · obtain rfl := hinst j k (toQUuid_injective (h.instanceId.symm.trans hsame))
      exact h.metrics
  · rw [Device.register_other _ _ hsame]
    exact .inr ⟨k, hid.symm, rfl, rfl, rfl, rfl, ⟨sender, hm, rfl, rfl⟩, .inl ⟨rfl, rfl⟩⟩

theorem Device.Traced.apply (hinst : ∀ j k, (daemons j).instanceId = (daemons k).instanceId → j = k)
    (h : item.Traced daemons wire) {sender : Endpoint} {seq : UInt64} {m : Option Measured}
    (hm : ⟨k, sender, .snapshot seq m⟩ ∈ wire) (current utc : Int)
    (hc : item.rejects ((daemons k).snapshot seq m) sender.address sender.port = false) :
    (item.apply ((daemons k).snapshot seq m) current utc).Traced daemons wire := by
  simp only [Device.rejects, Bool.or_eq_false_iff, decide_eq_false_iff_not, ne_eq, not_not] at hc
  obtain ⟨⟨⟨⟨hinstance, haddress⟩, -⟩, -⟩, -⟩ := hc
  rcases h with h | ⟨j, h⟩
  · exact absurd (haddress.symm.trans h.address) sender.address_ne_null
  · obtain rfl := hinst j k (toQUuid_injective (h.instanceId.symm.trans hinstance))
    refine .inr ⟨j, h.deviceId, h.instanceId, h.displayName, h.interval, rfl, h.source, ?_⟩
    refine .inr ⟨seq, m, sender, hm, rfl, ?_⟩
    simp [Device.apply, Process.snapshot, Daemon.snapshotOf]

end Entries

section Registry

variable {ι : Type} {qt : QtCbor} {daemons : ι → Process} {wire : List (Packet ι)}
  {r : RemoteDeviceRegistry} {e : Event}

/-- Every entry of a registry is traced. -/
structure RemoteDeviceRegistry.Traced {ι : Type} (daemons : ι → Process) (wire : List (Packet ι))
    (r : RemoteDeviceRegistry) : Prop where
  wellFormed : r.WellFormed
  device : ∀ id, ∀ item ∈ r.device id, item.Traced daemons wire

theorem RemoteDeviceRegistry.Traced.step
    (hinst : ∀ j k, (daemons j).instanceId = (daemons k).instanceId → j = k)
    (h : r.Traced daemons wire) (he : e.FromWire daemons wire) :
    (r.step qt e).Traced daemons wire where
  wellFormed := h.wellFormed.step e
  device id item' hm := by
    rw [device_step h.wellFormed] at hm
    cases hd : r.device id with
    | none =>
      rw [hd] at hm
      obtain ⟨hello, sender, hop, -, rfl⟩ := lifecycle_none hm
      rw [Event.FromWire, hop] at he
      obtain ⟨k, hk, rfl⟩ := he
      exact traced_ofHello hk
    | some item =>
      rw [hd] at hm
      have hitem := h.device id item hd
      have hid := deviceId_of_device hd
      cases change_of_lifecycle hm with
      | kept => exact hitem
      | refreshed => exact hitem.refresh e.time
      | @registered hello sender hop hdevice _ =>
        rw [Event.FromWire, hop] at he
        obtain ⟨k, hk, rfl⟩ := he
        refine (hitem.refresh e.time).register hinst hk ?_
        rw [hdevice, Device.deviceId_refresh, hid]
      | @applied snapshot sender hop _ hc =>
        rw [Event.FromWire, hop] at he
        obtain ⟨k, seq, m, hk, rfl⟩ := he
        exact hitem.apply hinst hk e.time e.call.utc hc

theorem RemoteDeviceRegistry.Traced.run
    (hinst : ∀ j k, (daemons j).instanceId = (daemons k).instanceId → j = k)
    (h : r.Traced daemons wire) {es : List Event} (he : ∀ e ∈ es, e.FromWire daemons wire) :
    (run (RemoteDeviceRegistry.step qt) r es).Traced daemons wire :=
  run_invariant h fun _ e hm hr => hr.step hinst (he e hm)

theorem traced_create (storage : StorageFile) : (create qt storage).Traced daemons wire where
  wellFormed := wellFormed_create storage
  device id item hm := by
    rw [← (storable_create (Keyed.mem_of_find hm)).2]
    exact .inl ⟨rfl, rfl, rfl, rfl⟩

end Registry

section Receiver

variable {ι : Type} {qt : QtCbor} {daemons : ι → Process} {wire : List (Packet ι)}
  {u : UdpTelemetryReceiver}

/-- What waits on the dashboard's socket came over the wire, and so did what it has shown. -/
structure UdpTelemetryReceiver.Traced {ι : Type} (daemons : ι → Process) (wire : List (Packet ι))
    (u : UdpTelemetryReceiver) : Prop where
  queued : ∀ datagram, some datagram ∈ u.socket → ∃ p ∈ wire, datagram = p.datagram daemons
  registry : u.registry.Traced daemons wire

/-- The sequence numbers on the wire are ones that CBOR can hold as integers. -/
def SequencesInRange {ι : Type} (wire : List (Packet ι)) : Prop :=
  ∀ p ∈ wire, ∀ seq m, p.message = .snapshot seq m → InRange seq

theorem message_of_datagram (hqt : qt.Rfc8949) (hrange : SequencesInRange wire) {p : Packet ι}
    (hp : p ∈ wire) {decoded : TelemetryMessage}
    (h : (decodeMessage qt (p.datagram daemons).data).message = some decoded) :
    decoded = (daemons p.sender).states p.message :=
  (((daemons p.sender).message_data hqt (hrange p hp)).mp h).1

/-- The registry is asked for what the daemon said, or for nothing. -/
theorem fromWire_request (hqt : qt.Rfc8949) (hrange : SequencesInRange wire) {p : Packet ι}
    (hp : p ∈ wire) (call : Call) :
    ∀ e ∈ UdpTelemetryReceiver.request qt
        (some ((p.datagram daemons).truncate (maximumDatagramSize + 1))) call,
      e.FromWire daemons wire := by
  intro e he
  simp only [UdpTelemetryReceiver.request] at he
  split at he
  · cases he
  · next hs =>
    rw [data_truncate hs] at he
    obtain ⟨k, source, message⟩ := p
    split at he
    · next hello hmessage =>
      have hstates := message_of_datagram hqt hrange hp hmessage
      cases message with
      | hello =>
        cases hstates
        rw [List.mem_singleton.mp he]
        exact ⟨k, hp, rfl⟩
      | snapshot seq m => cases hstates
    · next snapshot hmessage =>
      have hstates := message_of_datagram hqt hrange hp hmessage
      cases message with
      | hello => cases hstates
      | snapshot seq m =>
        cases hstates
        rw [List.mem_singleton.mp he]
        exact ⟨k, seq, m, hp, rfl⟩
    · cases he

theorem fromWire_loopRequests (hqt : qt.Rfc8949) (hrange : SequencesInRange wire)
    (calls : Nat → Call) (n : Nat) {socket : QUdpSocket}
    (h : ∀ datagram, some datagram ∈ socket → ∃ p ∈ wire, datagram = p.datagram daemons) :
    ∀ e ∈ UdpTelemetryReceiver.loopRequests qt calls n socket, e.FromWire daemons wire := by
  induction n generalizing socket with
  | zero => simp [UdpTelemetryReceiver.loopRequests]
  | succ n ih =>
    cases socket with
    | nil => simp [UdpTelemetryReceiver.loopRequests]
    | cons received socket =>
      refine List.forall_mem_append.mpr
        ⟨?_, ih fun datagram hm => h datagram (List.mem_cons_of_mem _ hm)⟩
      cases received with
      | none => simp [UdpTelemetryReceiver.request]
      | some datagram =>
        obtain ⟨p, hp, rfl⟩ := h datagram List.mem_cons_self
        exact fromWire_request hqt hrange hp (calls n)

theorem socket_processLoop (qt : QtCbor) (calls : Nat → Call) (n : Nat) (u : UdpTelemetryReceiver) :
    (UdpTelemetryReceiver.processLoop qt calls n u).socket = u.socket.drop n := by
  induction n generalizing u with
  | zero => rfl
  | succ n ih =>
    rw [UdpTelemetryReceiver.processLoop]
    split
    · next h => simp [h]
    · next received socket h =>
      rw [ih, UdpTelemetryReceiver.socket_process, h, List.drop_succ_cons]

/-- Whatever happens to the dashboard keeps it so, as long as what arrives comes over the wire. -/
theorem UdpTelemetryReceiver.Traced.step (hqt : qt.Rfc8949)
    (hinst : ∀ j k, (daemons j).instanceId = (daemons k).instanceId → j = k)
    (hrange : SequencesInRange wire) (h : u.Traced daemons wire)
    {input : UdpTelemetryReceiver.Input}
    (hi : ∀ datagram, input = .arrival (some datagram) →
      ∃ p ∈ wire, datagram = p.datagram daemons) :
    (UdpTelemetryReceiver.step qt u input).Traced daemons wire where
  queued datagram hm := by
    cases input with
    | arrival received =>
      rcases List.mem_append.mp hm with hm | hm
      · exact h.queued datagram hm
      · exact hi datagram (by rw [List.mem_singleton.mp hm])
    | readyRead calls =>
      refine h.queued datagram (List.mem_of_mem_drop (i := UdpTelemetryReceiver.batchSize) ?_)
      rw [← socket_processLoop qt calls]
      exact hm
    | timeout call => exact h.queued datagram hm
    | forgetDevice deviceId call => exact h.queued datagram hm
  registry := by
    rw [UdpTelemetryReceiver.registry_step]
    refine h.registry.run hinst ?_
    cases input with
    | arrival received => simp [UdpTelemetryReceiver.requests]
    | readyRead calls => exact fromWire_loopRequests hqt hrange calls _ h.queued
    | timeout call => exact List.forall_mem_singleton.mpr trivial
    | forgetDevice deviceId call => exact List.forall_mem_singleton.mpr trivial

end Receiver

section Runs

variable {ι : Type} {qt : QtCbor} {daemons : ι → Process} {wire : List (Packet ι)}

theorem UdpTelemetryReceiver.Traced.mono {u : UdpTelemetryReceiver} (h : u.Traced daemons wire)
    (more : List (Packet ι)) : u.Traced daemons (wire ++ more) where
  queued datagram hm := by
    obtain ⟨p, hp, hd⟩ := h.queued datagram hm
    exact ⟨p, List.mem_append_left _ hp, hd⟩
  registry := ⟨h.registry.wellFormed, fun id item hm => (h.registry.device id item hm).mono more⟩

theorem Deployment.Numbered.sequencesInRange {s : Deployment ι} {n : Nat} (h : s.Numbered n)
    (hn : n < 2 ^ 63) : SequencesInRange s.wire := by
  intro p hp seq m hm
  have hlt := UInt64.lt_iff_toNat_lt.mp (h.sent p hp seq m hm)
  have hle := h.seq_le p.sender
  rw [InRange]
  omega

variable [DecidableEq ι] {s : Deployment ι} {a : Action ι}

omit [DecidableEq ι] in
/-- What an action brings to the dashboard's socket was on the wire. -/
theorem arrival_of_mem_inputs {datagram : QNetworkDatagram}
    (h : .arrival (some datagram) ∈ s.inputs daemons a) :
    ∃ p ∈ s.wire, datagram = p.datagram daemons := by
  cases a with
  | deliver n =>
    obtain ⟨p, hp, hd⟩ := List.mem_map.mp h
    cases hd
    exact ⟨p, List.mem_of_getElem? (Option.mem_toList.mp hp), rfl⟩
  | _ => simp [Deployment.inputs] at h

omit [DecidableEq ι] in
theorem traced_receiverAfter (hqt : qt.Rfc8949)
    (hinst : ∀ j k, (daemons j).instanceId = (daemons k).instanceId → j = k)
    (hrange : SequencesInRange s.wire) (h : s.receiver.Traced daemons s.wire) :
    (s.receiverAfter qt daemons a).Traced daemons s.wire := by
  have hinputs : (run (UdpTelemetryReceiver.step qt) s.receiver (s.inputs daemons a)).Traced daemons
      s.wire := by
    refine run_invariant h fun u input hm hu => hu.step hqt hinst hrange ?_
    rintro datagram rfl
    exact arrival_of_mem_inputs hm
  cases a with
  | restart => exact ⟨by simp [Deployment.receiverAfter, Deployment.restarted],
      traced_create s.receiver.registry.storage⟩
  | _ => exact hinputs

theorem traced_step (hqt : qt.Rfc8949)
    (hinst : ∀ j k, (daemons j).instanceId = (daemons k).instanceId → j = k)
    (hrange : SequencesInRange s.wire) (h : s.receiver.Traced daemons s.wire) :
    (s.step qt daemons a).receiver.Traced daemons (s.step qt daemons a).wire :=
  (traced_receiverAfter hqt hinst hrange h).mono _

theorem traced_run (hqt : qt.Rfc8949)
    (hinst : ∀ j k, (daemons j).instanceId = (daemons k).instanceId → j = k)
    (storage : StorageFile) {as : List (Action ι)} (h : as.length < 2 ^ 63) :
    let s := run (Deployment.step qt daemons) (Deployment.start qt storage) as
    s.receiver.Traced daemons s.wire := by
  refine run_history (P := fun as (s : Deployment ι) =>
    as.length < 2 ^ 63 → s.receiver.Traced daemons s.wire)
    (fun _ => ⟨by simp [Deployment.start], traced_create storage⟩) (fun as a ih hlen => ?_) as h
  rw [List.length_append, List.length_singleton] at hlen
  have hlen' := Nat.lt_of_succ_lt hlen
  exact traced_step hqt hinst ((Deployment.numbered_run storage hlen').sequencesInRange hlen')
    (ih hlen')

/-- Under any loss, repetition and reordering, and across restarts of the dashboard: each daemon
numbers its snapshots in the order it sends them, and an entry of the dashboard is either not
claimed since the last restart or says in every field what one and the same daemon has sent,
with the metrics of the pass whose number it holds. -/
theorem shown_was_sent (hqt : qt.Rfc8949) (daemons : ι → Process)
    (hinst : ∀ j k, (daemons j).instanceId = (daemons k).instanceId → j = k)
    (storage : StorageFile) (as : List (Action ι)) (h : as.length < 2 ^ 63) :
    let s := run (Deployment.step qt daemons) (Deployment.start qt storage) as
    s.wire.Pairwise Packet.Before ∧
      (∀ p ∈ s.wire, ∀ seq m, p.message = .snapshot seq m → seq < (s.loops p.sender).seq) ∧
      ∀ item ∈ s.receiver.registry.devices, item.Unclaimed ∨ ∃ k, item.SentBy daemons s.wire k := by
  intro s
  have hnumbered : s.Numbered as.length := Deployment.numbered_run storage h
  have htraced : s.receiver.Traced daemons s.wire := traced_run hqt hinst storage h
  refine ⟨hnumbered.ordered, hnumbered.sent, fun item hm => ?_⟩
  exact htraced.registry.device item.deviceId item (device_of_mem htraced.registry.wellFormed hm)

/-- What a daemon's message asks of the registry. -/
def Process.event (p : Process) (source : Endpoint) (call : Call) : Message → Event
  | .hello => ⟨.registerHello p.hello source, UdpTelemetryReceiver.clocked call⟩
  | .snapshot seq m =>
    ⟨.acceptSnapshot (p.snapshot seq m) source, UdpTelemetryReceiver.clocked call⟩

/-- In every run, a datagram on the wire asks the registry for exactly what its daemon states if
that is valid and fits a datagram, and for nothing otherwise. -/
theorem asked_as_sent (hqt : qt.Rfc8949) (daemons : ι → Process) (storage : StorageFile)
    (as : List (Action ι)) (h : as.length < 2 ^ 63) (p : Packet ι)
    (hp : p ∈ (run (Deployment.step qt daemons) (Deployment.start qt storage) as).wire)
    (call : Call) :
    UdpTelemetryReceiver.request qt
        (some ((p.datagram daemons).truncate (maximumDatagramSize + 1))) call =
      if ((daemons p.sender).states p.message).Valid ∧
          ((daemons p.sender).data p.message).length ≤ maximumDatagramSize then
        [(daemons p.sender).event p.source call p.message]
      else [] := by
  have hrange : SequencesInRange
      (run (Deployment.step qt daemons) (Deployment.start qt storage) as).wire :=
    (Deployment.numbered_run storage h).sequencesInRange h
  obtain ⟨k, source, message⟩ := p
  have hdata (decoded : TelemetryMessage) :
      (decodeMessage qt ((daemons k).data message)).message = some decoded ↔ _ :=
    (daemons k).message_data hqt (hrange _ hp)
  simp only [UdpTelemetryReceiver.request]
  by_cases hs : ((Packet.datagram daemons ⟨k, source, message⟩).truncate
      (maximumDatagramSize + 1)).data.length > maximumDatagramSize
  · rw [if_pos hs, if_neg]
    rintro ⟨-, hfits⟩
    simp only [QNetworkDatagram.truncate, List.length_take] at hs
    exact absurd hfits (by dsimp only [Packet.datagram] at hs; omega)
  · rw [if_neg hs, data_truncate hs]
    dsimp only [Packet.datagram]
    by_cases hv : ((daemons k).states message).Valid ∧
        ((daemons k).data message).length ≤ maximumDatagramSize
    · rw [if_pos hv, (hdata _).mpr ⟨rfl, hv⟩]
      cases message <;> rfl
    · have hnone : (decodeMessage qt ((daemons k).data message)).message = none := by
        refine Option.eq_none_iff_forall_ne_some.mpr fun decoded hsome => hv ?_
        exact ((hdata decoded).mp hsome).2
      rw [if_neg hv, hnone]

end Runs

def sampleProcess : Process where
  config := Daemon.sampleConfig
  hostname := none
  deviceId := Daemon.sampleDeviceId
  instanceId := Daemon.sampleInstanceId
  info := Daemon.sampleInfo
  interval := by decide
  name := ⟨"Pi", rfl⟩
  shape := Daemon.sampleInfo_shape

def sampleMeasured : Measured := ⟨Daemon.sampleMetrics, Daemon.sampleMetrics_shape⟩

/-- A pass whose snapshot arrives twice. -/
def samplePass : List (Action Unit) :=
  [.send () sampleSender, .deliver 0, .readyRead fun _ => {},
    .receive () (some 0) (some sampleMeasured), .deliver 1, .deliver 1, .readyRead fun _ => {}]

def sampleDeployment : Deployment Unit :=
  run (Deployment.step .reference fun _ => sampleProcess) (Deployment.start .reference .missing)
    samplePass

theorem asked_as_sent_sample :
    UdpTelemetryReceiver.request .reference (some
        (QNetworkDatagram.truncate ⟨sampleProcess.data .hello, sampleSender⟩
          (maximumDatagramSize + 1))) {} =
      [sampleProcess.event sampleSender {} .hello] :=
  (asked_as_sent QtCbor.reference_rfc8949 (fun _ => sampleProcess) .missing [.send () sampleSender]
    (by decide) ⟨(), sampleSender, .hello⟩ List.mem_cons_self {}).trans (if_pos (by decide +kernel))

theorem shown_was_sent_sample :
    sampleDeployment.receiver.registry.devices.map (·.lastSequence) = [some 0] ∧
      ∀ item ∈ sampleDeployment.receiver.registry.devices,
        item.Unclaimed ∨ ∃ k, item.SentBy (fun _ => sampleProcess) sampleDeployment.wire k :=
  ⟨by decide +kernel, (shown_was_sent QtCbor.reference_rfc8949 (fun _ => sampleProcess)
    (fun _ _ _ => rfl) .missing samplePass (by decide)).2.2⟩

end RpiDashboard.Telemetry
