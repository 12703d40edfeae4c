import RpiDashboard.Daemon.Run
import RpiDashboard.Daemon.MessageLaws
import RpiDashboard.Telemetry.UdpTelemetryReceiver

/-! Registration as the daemon reads it: it looks for the byte of `true` anywhere in the
reply. -/

namespace RpiDashboard.Daemon

open Qt Protocol Cbor Telemetry UdpTelemetryReceiver

section Scan

theorem readsAccepted_recv {reply : List UInt8} (h : reply.length ≤ 2048) :
    readsAccepted (recv (some reply)) = true ↔ 0xf5 ∈ reply := by
  rw [readsAccepted, recv, Option.getD_some, List.take_of_length_le h]
  simp only [Bool.and_eq_true, decide_eq_true_eq, List.contains_iff_mem]
  exact and_iff_right_of_imp List.length_pos_of_mem

@[simp] theorem readsAccepted_recv_none : readsAccepted (recv none) = false := rfl

theorem mem_head_text {n : Nat} (h : n < 2048) : 0xf5 ∈ Cbor.head 3 n ↔ n % 256 = 245 := by
  rw [Cbor.head]
  split_ifs with h24 h256 h65536
  all_goals simp [initial, bigEndian, ← UInt8.toNat_inj]
  all_goals omega

theorem mem_encode_text {s : QString} (h : (toUtf8 s).length < 2048) :
    0xf5 ∈ (QCborValue.string s).toItem.encode ↔ (toUtf8 s).length % 256 = 245 := by
  have hs : (0xf5 : UInt8) ∉ toUtf8 s := fun hm => absurd (mem_toUtf8_lt hm) (by decide)
  rw [QCborValue.toItem, Item.encode, List.mem_append, mem_head_text h]
  exact or_iff_left hs

theorem mem_encode_uuid (u : QUuid) :
    0xf5 ∈ (QCborValue.byteArray u.toRfc4122).toItem.encode ↔ 0xf5 ∈ u.toRfc4122 := by
  have hhead : (0xf5 : UInt8) ∉ Cbor.head 2 16 := by decide
  have hlen : u.toRfc4122.length = 16 := u.length_eq
  rw [QCborValue.toItem, Item.encode, List.mem_append, hlen]
  exact or_iff_right hhead

theorem mem_encode_boolean (b : Bool) :
    0xf5 ∈ (QCborValue.boolean b).toItem.encode ↔ b = true := by
  cases b <;> decide

theorem mem_encode_map {m : QCborMap} {b : UInt8} :
    b ∈ (QCborValue.map m).toItem.encode ↔
      b ∈ Cbor.head 5 m.length ∨ ∃ e ∈ m, b ∈ e.1.toItem.encode ∨ b ∈ e.2.toItem.encode := by
  rw [QCborValue.toItem, Item.encode, List.mem_append, encodeEntries_eq_flatMap,
    Qt.toEntries_eq_map, List.length_map]
  simp [Qt.toEntry, encodeEntry]

end Scan

theorem mem_encode_registrationResult {r : RegistrationResult}
    (h : (toUtf8 r.reason).length < 2048) :
    0xf5 ∈ (QCborValue.map (Codec.registrationResultToMap r)).toItem.encode ↔
      r.accepted = true ∨ 0xf5 ∈ r.deviceId.toRfc4122 ∨ 0xf5 ∈ r.instanceId.toRfc4122 ∨
        (toUtf8 r.reason).length % 256 = 245 := by
  have hkeys : ∀ k ∈ ["device_id", "instance_id", "type", "version", "accepted", "reason",
      "registration_result"], (0xf5 : UInt8) ∉ (QCborValue.string k).toItem.encode := by
    decide +kernel
  simp only [List.forall_mem_cons] at hkeys
  obtain ⟨hdevice, hinstance, htype, hversion, haccepted, hreason, hresult, -⟩ := hkeys
  have hone : (0xf5 : UInt8) ∉ (QCborValue.integer telemetryProtocolVersion).toItem.encode := by
    decide
  have hhead : ∀ n < 24, (0xf5 : UInt8) ∉ Cbor.head 5 n := by decide
  rw [mem_encode_map, Codec.registrationResultToMap_entries]
  split_ifs with hr
  · have hempty : (toUtf8 r.reason).length % 256 ≠ 245 := by rw [hr]; decide
    simp [hhead, hdevice, hinstance, htype, hversion, haccepted, hresult, hone, mem_encode_uuid,
      mem_encode_boolean, hempty]
    tauto
  · simp [hhead, hdevice, hinstance, htype, hversion, haccepted, hreason, hresult, hone,
      mem_encode_uuid, mem_encode_boolean, mem_encode_text h]
    tauto

/-- The reply that tells a result. -/
def replyOf (qt : QtCbor) (r : RegistrationResult) : List UInt8 :=
  encodeMessage qt (.registrationResult r)

theorem length_replyOf {qt : QtCbor} (hqt : qt.Rfc8949) (r : RegistrationResult) :
    (replyOf qt r).length = 101 + if r.reason = "" then 0 else 7 + textSize r.reason := by
  rw [replyOf, length_encodeMessage hqt]
  exact Codec.encodedSize_registrationResult r

/-- Apart from `accepted`, nothing in the reply holds the byte of `true`. -/
def Legible (r : RegistrationResult) : Prop :=
  0xf5 ∉ r.deviceId.toRfc4122 ∧ 0xf5 ∉ r.instanceId.toRfc4122 ∧
    (toUtf8 r.reason).length % 256 ≠ 245
  deriving Decidable

theorem mem_replyOf {qt : QtCbor} (hqt : qt.Rfc8949) {r : RegistrationResult}
    (h : (replyOf qt r).length ≤ 2048) :
    0xf5 ∈ replyOf qt r ↔ r.accepted = true ∨ ¬ Legible r := by
  have hreason : (toUtf8 r.reason).length < 2048 := by
    rw [length_replyOf hqt] at h
    split_ifs at h with hr
    · rw [hr]; decide
    · rw [textSize_eq] at h
      omega
  obtain ⟨sort, -, hread⟩ := hqt.fromCbor_toCbor
  have hperm := (hread (.map (Codec.registrationResultToMap r))
    (Codec.messageToMap_plain 9 (.registrationResult r))).1
  rw [replyOf, encodeMessage]
  refine hperm.mem_iff.trans ((mem_encode_registrationResult hreason).trans ?_)
  simp only [Legible]
  tauto

section Loop

variable {c : Config} {d i : Uuid} {info : Value} {once : Bool} {s : Loop}
  {reply : Option (List UInt8)} {m : Option Value}

theorem Loop.registered_step (hs : s.exit = none) :
    (Loop.step c d i info once s (.exchange reply m)).registered = readsAccepted (recv reply) := by
  cases hr : readsAccepted (recv reply) <;> cases once <;> simp [Loop.step, Loop.pass, hs, hr]

theorem Loop.snapshot_mem_output (hs : s.exit = none) :
    (∃ bytes, .snapshot bytes ∈ Loop.output c d i info once s (.exchange reply m)) ↔
      readsAccepted (recv reply) = true := by
  cases hr : readsAccepted (recv reply) <;> cases once <;> simp [Loop.output, Loop.pass, hs, hr]

/-- Snapshots are sent in a live loop only, by an exchange whose reply reads as accepted. -/
theorem Loop.of_snapshot_mem_output {p : Pass} {bytes : List UInt8}
    (h : .snapshot bytes ∈ Loop.output c d i info once s p) :
    ∃ reply m, p = .exchange (some reply) m ∧ readsAccepted (recv (some reply)) = true := by
  have hs : s.exit = none := by
    by_contra hs
    simp [Loop.output, Loop.pass, Option.isSome_iff_ne_none.mpr hs] at h
  cases p with
  | unresolved => cases once <;> simp [Loop.output, Loop.pass, hs] at h
  | noSocket => simp [Loop.output, Loop.pass, hs] at h
  | exchange reply m =>
    have hr := (Loop.snapshot_mem_output hs).mp ⟨bytes, h⟩
    cases reply with
    | none => simp at hr
    | some reply => exact ⟨reply, m, rfl, hr⟩

theorem Loop.seq_step (p : Pass) :
    (Loop.step c d i info once s p).seq =
      s.seq + UInt64.ofNat ((Loop.output c d i info once s p).countP Output.isSnapshot) := by
  by_cases hs : s.exit.isSome
  · simp [Loop.step, Loop.output, Loop.pass, hs]
  · cases p with
    | unresolved => cases once <;> simp [Loop.step, Loop.output, Loop.pass, hs, Output.isSnapshot]
    | noSocket => simp [Loop.step, Loop.output, Loop.pass, hs]
    | exchange reply m =>
      cases hr : readsAccepted (recv reply) <;> cases once <;>
        simp [Loop.step, Loop.output, Loop.pass, hs, hr, Output.isSnapshot, List.countP_cons]

end Loop

/-- The next sequence number counts the snapshots that the run has sent. -/
theorem seq_run (config : Config) (hostname : Option StdString) (d i : Uuid) (info : Value)
    (once : Bool) (ps : List Pass) :
    (run config hostname d i info once ps).1.seq =
      UInt64.ofNat ((run config hostname d i info once ps).2.countP Output.isSnapshot) := by
  have hrun : ∀ (c : Config) (s : Loop),
      (RpiDashboard.run (Loop.step c d i info once) s ps).seq =
        s.seq + UInt64.ofNat ((emitted (Loop.step c d i info once)
          (Loop.output c d i info once) s ps).countP Output.isSnapshot) := by
    intro c s
    induction ps generalizing s with
    | nil => simp [emitted]
    | cons p ps ih =>
      rw [run_cons, ih, Loop.seq_step, emitted, List.countP_append, UInt64.ofNat_add,
        UInt64.add_assoc]
  rw [run, hrun]
  simp

theorem registerHello_reason (qt : QtCbor) (registry : RemoteDeviceRegistry) (hello : Hello)
    (sender : Endpoint) (call : Call) :
    (registry.registerHello qt hello sender.address sender.port call).1 ∈
      ["", "duplicate_device_id", "registry_full"] := by
  rw [RemoteDeviceRegistry.registerHello]
  dsimp only
  split <;> split_ifs <;> simp

/-- What the dashboard answers fits the daemon's buffer. -/
theorem length_answer_le {qt : QtCbor} (hqt : qt.Rfc8949) (registry : RemoteDeviceRegistry)
    (hello : Hello) (sender : Endpoint) (call : Call) :
    (replyOf qt (answer hello
      (registry.registerHello qt hello sender.address sender.port call).1)).length ≤ 2048 := by
  have hsize : ∀ reason ∈ ["", "duplicate_device_id", "registry_full"],
      101 + (if reason = "" then 0 else 7 + textSize reason) ≤ 2048 := by
    decide +kernel
  rw [length_replyOf hqt, answer]
  exact hsize _ (registerHello_reason qt registry hello sender call)

/-- The daemon reads a result as it was meant exactly if the result is accepted or legible;
if every reply of a run is so, then every snapshot of the run answers an acceptance.  All
this is about replies that fit the daemon's buffer, as those of the dashboard do. -/
theorem registration_agreement_iff {qt : QtCbor} (hqt : qt.Rfc8949) (c : Config) (d i : Uuid)
    (info : Value) (once : Bool) :
    (∀ (s : Loop) (r : RegistrationResult) (m : Option Value), s.exit = none →
      (replyOf qt r).length ≤ 2048 →
      ((((Loop.step c d i info once s (.exchange (some (replyOf qt r)) m)).registered = true ↔
          r.accepted = true) ∧
        ((∃ bytes, .snapshot bytes ∈
            Loop.output c d i info once s (.exchange (some (replyOf qt r)) m)) →
          r.accepted = true)) ↔
        (r.accepted = true ∨ Legible r))) ∧
    (∀ ps : List Pass,
      (∀ reply m, .exchange (some reply) m ∈ ps → ∃ r, reply = replyOf qt r ∧
        (replyOf qt r).length ≤ 2048 ∧ (r.accepted = true ∨ Legible r)) →
      Throughout (Loop.step c d i info once) (fun s p => ∀ bytes,
        .snapshot bytes ∈ Loop.output c d i info once s p →
        ∃ r m, p = .exchange (some (replyOf qt r)) m ∧ r.accepted = true) {} ps) ∧
    (∀ (registry : RemoteDeviceRegistry) (hello : Hello) (sender : Endpoint) (call : Call),
      (replyOf qt (answer hello
        (registry.registerHello qt hello sender.address sender.port call).1)).length ≤ 2048) := by
  refine ⟨?_, ?_, length_answer_le hqt⟩
  · intro s r m hs hr
    rw [Loop.registered_step hs, Loop.snapshot_mem_output hs, readsAccepted_recv hr,
      mem_replyOf hqt hr]
    tauto
  · intro ps hps
    refine throughout_of_forall fun s p hp bytes hbytes => ?_
    obtain ⟨reply, m, rfl, hread⟩ := Loop.of_snapshot_mem_output hbytes
    obtain ⟨r, rfl, hr, hlegible⟩ := hps reply m hp
    refine ⟨r, m, rfl, ?_⟩
    rw [readsAccepted_recv hr, mem_replyOf hqt hr] at hread
    tauto

/-- What a full registry answers to the hello of a device. -/
def sampleRejection (d : Uuid) : RegistrationResult :=
  answer (helloOf sampleConfig d sampleInstanceId sampleInfo) "registry_full"

theorem registration_agreement_iff_sample :
    (Loop.step sampleConfig sampleDeviceId sampleInstanceId sampleInfo false {}
      (.exchange (some (replyOf .reference (sampleRejection sampleDeviceId))) none)).registered =
        false := by
  have h := (registration_agreement_iff QtCbor.reference_rfc8949 sampleConfig sampleDeviceId
    sampleInstanceId sampleInfo false).1 {} (sampleRejection sampleDeviceId) none rfl
    (by decide +kernel)
  have hagrees := (h.mpr (by decide)).1
  exact Bool.eq_false_iff.mpr fun hr => absurd (hagrees.mp hr) (by decide)

/-- The identity `f5000000-0000-4000-8000-000000000000`. -/
def unluckyDeviceId : Uuid := #v[0xf5, 0, 0, 0, 0, 0, 0x40, 0, 0x80, 0, 0, 0, 0, 0, 0, 0]

theorem rejection_read_as_accepted :
    (sampleRejection unluckyDeviceId).accepted = false ∧
      (Loop.step sampleConfig unluckyDeviceId sampleInstanceId sampleInfo false {}
        (.exchange (some (replyOf .reference (sampleRejection unluckyDeviceId))) none)).registered =
          true ∧
      ∃ bytes, .snapshot bytes ∈
        Loop.output sampleConfig unluckyDeviceId sampleInstanceId sampleInfo false {}
          (.exchange (some (replyOf .reference (sampleRejection unluckyDeviceId))) none) := by
  have hread : readsAccepted
      (recv (some (replyOf .reference (sampleRejection unluckyDeviceId)))) = true := by
    decide +kernel
  exact ⟨rfl, (Loop.registered_step rfl).trans hread, (Loop.snapshot_mem_output rfl).mpr hread⟩

end RpiDashboard.Daemon
