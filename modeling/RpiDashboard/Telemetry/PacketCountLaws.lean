import RpiDashboard.Telemetry.UdpTelemetryReceiverLaws

/-! The receiver's counters: every datagram is counted once. -/

namespace RpiDashboard.Telemetry.UdpTelemetryReceiver

open Qt Protocol

variable {qt : QtCbor} {u : UdpTelemetryReceiver}

/-- The snapshots that an event gets accepted. -/
def newSnapshots (qt : QtCbor) (r : RemoteDeviceRegistry) (e : Event) : List DeviceSnapshot :=
  match e.operation with
  | .acceptSnapshot snapshot sender =>
    if (r.acceptSnapshot qt snapshot sender.address sender.port e.call).1 then [snapshot] else []
  | _ => []

theorem counted_process (received : Option QNetworkDatagram) (call : Call) :
    (process qt u received call).accepted + (process qt u received call).dropped =
      u.accepted + u.dropped + 1 := by
  have hdrop : u.drop.accepted + u.drop.dropped = u.accepted + u.dropped + 1 :=
    (UInt64.add_assoc ..).symm
  have haccept : u.accepted + 1 + u.dropped = u.accepted + u.dropped + 1 := by
    rw [UInt64.add_assoc, UInt64.add_comm 1, UInt64.add_assoc]
  cases received with
  | none => exact hdrop
  | some datagram =>
    simp only [process]
    split
    · exact hdrop
    · split
      · exact haccept
      · rw [processSnapshot]
        split
        · exact haccept
        · exact hdrop
      · exact hdrop

theorem counted_processLoop (calls : Nat → Call) (n : Nat) (u : UdpTelemetryReceiver) :
    (processLoop qt calls n u).accepted + (processLoop qt calls n u).dropped +
        UInt64.ofNat (processLoop qt calls n u).socket.length =
      u.accepted + u.dropped + UInt64.ofNat u.socket.length := by
  induction n generalizing u with
  | zero => rfl
  | succ n ih =>
    rw [processLoop]
    split
    · rfl
    · next received socket h =>
      rw [ih, counted_process, socket_process, h, List.length_cons, UInt64.ofNat_add,
        UInt64.add_assoc (u.accepted + u.dropped), UInt64.add_comm 1]
      rfl

/-- The datagrams that an input brings to the socket. -/
def Input.arrivals : Input → Nat
  | .arrival _ => 1
  | _ => 0

theorem counted_step (input : Input) :
    (step qt u input).accepted + (step qt u input).dropped +
        UInt64.ofNat (step qt u input).socket.length =
      u.accepted + u.dropped + UInt64.ofNat u.socket.length + UInt64.ofNat input.arrivals := by
  cases input with
  | arrival received =>
    simp only [step, List.length_append, List.length_singleton, UInt64.ofNat_add, Input.arrivals]
    exact (UInt64.add_assoc ..).symm
  | readyRead calls =>
    exact (counted_processLoop calls batchSize u).trans (UInt64.add_zero _).symm
  | timeout call => exact (UInt64.add_zero _).symm
  | forgetDevice deviceId call => exact (UInt64.add_zero _).symm

/-- The snapshots that the registry takes on an input. -/
def taken (qt : QtCbor) (r : RemoteDeviceRegistry) (es : List Event) : List DeviceSnapshot :=
  emitted (RemoteDeviceRegistry.step qt) (newSnapshots qt) r es

theorem accepted_process (qt : QtCbor) (u : UdpTelemetryReceiver)
    (received : Option QNetworkDatagram) (call : Call) :
    (process qt u received call).accepted + UInt64.ofNat u.sent.length =
      u.accepted + UInt64.ofNat ((process qt u received call).sent.length +
        (taken qt u.registry (request qt received call)).length) := by
  cases received with
  | none => rfl
  | some datagram =>
    simp only [process, request]
    split
    · rfl
    · split
      · simp [processHello, taken, emitted, newSnapshots, UInt64.add_assoc, UInt64.add_comm]
      · next snapshot h =>
        rw [processSnapshot]
        split <;> rename_i hresult
        · simp [hresult, taken, emitted, newSnapshots, UInt64.add_assoc, UInt64.add_comm]
        · simp [hresult, taken, emitted, newSnapshots, drop]
      · rfl

/-- Two counts, one after the other. -/
theorem balance {a b c : UInt64} {k l m s t : Nat}
    (h : b + UInt64.ofNat k = a + UInt64.ofNat (l + s))
    (h' : c + UInt64.ofNat l = b + UInt64.ofNat (m + t)) :
    c + UInt64.ofNat k = a + UInt64.ofNat (m + (s + t)) := by
  simp only [UInt64.ofNat_add] at h h' ⊢
  grind

theorem accepted_processLoop (calls : Nat → Call) (n : Nat) (u : UdpTelemetryReceiver) :
    (processLoop qt calls n u).accepted + UInt64.ofNat u.sent.length =
      u.accepted + UInt64.ofNat ((processLoop qt calls n u).sent.length +
        (taken qt u.registry (loopRequests qt calls n u.socket)).length) := by
  induction n generalizing u with
  | zero => rfl
  | succ n ih =>
    rw [processLoop]
    split
    · next h =>
      rw [h]
      rfl
    · next received socket h =>
      have hhead := accepted_process qt { u with socket := socket }
        (received.map fun datagram => datagram.truncate (maximumDatagramSize + 1)) (calls n)
      have hrest := ih (process qt { u with socket := socket }
        (received.map fun datagram => datagram.truncate (maximumDatagramSize + 1)) (calls n))
      rw [socket_process, registry_process] at hrest
      rw [h, loopRequests, taken, emitted_append, List.length_append]
      exact balance hhead hrest

theorem accepted_step (qt : QtCbor) (u : UdpTelemetryReceiver) (input : Input) :
    (step qt u input).accepted + UInt64.ofNat u.sent.length =
      u.accepted + UInt64.ofNat ((step qt u input).sent.length +
        (taken qt u.registry (requests qt u input)).length) := by
  cases input with
  | readyRead calls => exact accepted_processLoop calls batchSize u
  | _ => rfl

/-- Every datagram is accepted, dropped or still queued, and what is accepted is a hello that was
answered or a snapshot that the registry took. -/
theorem packets_counted (registry : RemoteDeviceRegistry) (inputs : List Input) :
    let u := run (step qt) { registry := registry } inputs
    u.accepted + u.dropped + UInt64.ofNat u.socket.length =
        UInt64.ofNat (inputs.map Input.arrivals).sum ∧
      u.accepted = UInt64.ofNat (u.sent.length + (taken qt registry
        (emitted (step qt) (requests qt) { registry := registry } inputs)).length) := by
  induction inputs using List.reverseRecOn with
  | nil => exact ⟨rfl, rfl⟩
  | append_singleton inputs input ih =>
    dsimp only at ih ⊢
    rw [run_concat]
    constructor
    · rw [counted_step, ih.1, List.map_append, List.sum_append, UInt64.ofNat_add]
      rfl
    · have hstep := accepted_step qt (run (step qt) { registry := registry } inputs) input
      rw [registry_run] at hstep
      rw [emitted_append, emitted, emitted, List.append_nil, taken, emitted_append,
        List.length_append]
      have hbefore : (run (step qt) { registry := registry } inputs).accepted + UInt64.ofNat 0 =
          0 + UInt64.ofNat ((run (step qt) { registry := registry } inputs).sent.length +
            (taken qt registry
              (emitted (step qt) (requests qt) { registry := registry } inputs)).length) := by
        rw [UInt64.zero_add, ← ih.2]
        exact UInt64.add_zero _
      have htotal := balance hbefore hstep
      rw [UInt64.zero_add] at htotal
      exact (UInt64.add_zero _).symm.trans htotal

end RpiDashboard.Telemetry.UdpTelemetryReceiver
