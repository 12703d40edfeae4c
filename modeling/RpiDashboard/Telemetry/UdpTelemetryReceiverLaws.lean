import RpiDashboard.Telemetry.RegistryLaws
import RpiDashboard.Telemetry.UdpTelemetryReceiver

/-! The receiver runs the registry: batches, dropped packets and replies aside,
its registry takes the steps its datagrams ask for, one after another. -/

namespace RpiDashboard.Telemetry.UdpTelemetryReceiver

open Qt Protocol

variable {qt : QtCbor}

theorem registry_process (u : UdpTelemetryReceiver) (received : Option QNetworkDatagram)
    (call : Call) :
    (process qt u received call).registry =
      run (RemoteDeviceRegistry.step qt) u.registry (request qt received call) := by
  cases received with
  | none => rfl
  | some datagram =>
    simp only [process, request]
    split
    · rfl
    · split
      · rfl
      · simp only [processSnapshot, run_cons, run_nil, RemoteDeviceRegistry.step]
        split <;> rename_i h <;> simp [h, drop]
      · rfl

theorem socket_process (u : UdpTelemetryReceiver) (received : Option QNetworkDatagram)
    (call : Call) : (process qt u received call).socket = u.socket := by
  cases received with
  | none => rfl
  | some datagram =>
    simp only [process]
    split
    · rfl
    · split
      · rfl
      · simp only [processSnapshot]
        split <;> rfl
      · rfl

theorem registry_processLoop (calls : Nat → Call) (n : Nat) (u : UdpTelemetryReceiver) :
    (processLoop qt calls n u).registry =
      run (RemoteDeviceRegistry.step qt) u.registry (loopRequests qt calls n u.socket) := by
  induction n generalizing u with
  | zero => rfl
  | succ n ih =>
    rw [processLoop]
    split
    · rename_i h
      rw [h]
      rfl
    · rename_i received socket h
      rw [ih, registry_process, socket_process, h, loopRequests, run_append]

theorem registry_step (u : UdpTelemetryReceiver) (input : Input) :
    (step qt u input).registry =
      run (RemoteDeviceRegistry.step qt) u.registry (requests qt u input) := by
  cases input with
  | arrival received => rfl
  | readyRead calls => exact registry_processLoop calls batchSize u
  | timeout call => rfl
  | forgetDevice deviceId call => rfl

theorem registry_run (u : UdpTelemetryReceiver) (inputs : List Input) :
    (run (step qt) u inputs).registry =
      run (RemoteDeviceRegistry.step qt) u.registry
        (emitted (step qt) (requests qt) u inputs) :=
  run_refines registry_step

theorem decoded_request (received : Option QNetworkDatagram) (call : Call) :
    ∀ e ∈ request qt received call, e.Decoded qt := by
  cases received with
  | none => simp [request]
  | some datagram =>
    simp only [request]
    split
    · simp
    · split <;> rename_i h
      · exact List.forall_mem_singleton.mpr ⟨datagram.data, h⟩
      · exact List.forall_mem_singleton.mpr ⟨datagram.data, h⟩
      · simp

theorem decoded_loopRequests (calls : Nat → Call) (n : Nat) (socket : QUdpSocket) :
    ∀ e ∈ loopRequests qt calls n socket, e.Decoded qt := by
  induction n generalizing socket with
  | zero => simp [loopRequests]
  | succ n ih =>
    cases socket with
    | nil => simp [loopRequests]
    | cons received socket =>
      exact List.forall_mem_append.mpr ⟨decoded_request _ (calls n), ih socket⟩

/-- Whatever the receiver asks of the registry came out of the decoder. -/
theorem decoded_requests (u : UdpTelemetryReceiver) (input : Input) :
    ∀ e ∈ requests qt u input, e.Decoded qt := by
  cases input with
  | arrival received => simp [requests]
  | readyRead calls => exact decoded_loopRequests calls batchSize u.socket
  | timeout call => exact List.forall_mem_singleton.mpr trivial
  | forgetDevice deviceId call => exact List.forall_mem_singleton.mpr trivial

/-- The registry's invariants hold in every state of the receiver. -/
theorem consistent_run (storage : StorageFile) (inputs : List Input) :
    let u := run (step qt) { registry := .create qt storage } inputs
    u.registry.WellFormed ∧ ∀ item ∈ u.registry.devices, item.Consistent := by
  have hdecoded : ∀ e ∈ emitted (step qt) (requests qt) { registry := .create qt storage } inputs,
      e.Decoded qt := forall_mem_emitted decoded_requests
  dsimp only
  rw [registry_run]
  exact ⟨wellFormed_after qt storage _,
    consistent_invariant.of_run storage fun e he => (hdecoded e he).valid⟩

/-- A valid message that fits a datagram reaches the registry. -/
theorem request_encodeMessage (h : qt.Rfc8949) {message : TelemetryMessage} (hv : message.Valid)
    (hs : (encodeMessage qt message).length ≤ maximumDatagramSize) (sender : Endpoint)
    (call : Call) :
    request qt (some (QNetworkDatagram.truncate ⟨encodeMessage qt message, sender⟩
        (maximumDatagramSize + 1))) call =
      match message with
      | .hello hello => [⟨.registerHello hello sender, clocked call⟩]
      | .snapshot snapshot => [⟨.acceptSnapshot snapshot sender, clocked call⟩]
      | .registrationResult _ => [] := by
  have htake : (encodeMessage qt message).take (maximumDatagramSize + 1) = encodeMessage qt message :=
    List.take_of_length_le (by omega)
  simp only [request, QNetworkDatagram.truncate, htake, if_neg (Nat.not_lt.mpr hs),
    decodeMessage_encodeMessage h hv hs]
  cases message <;> rfl

end RpiDashboard.Telemetry.UdpTelemetryReceiver
