import RpiDashboard.Protocol.RoundTripLaws
import RpiDashboard.Qt.Reference

/-! What the decoder makes of trailing bytes and of duplicate keys: nothing.  A datagram is
refused for its size or for what the first entry of each key says, and for nothing else. -/

namespace RpiDashboard.Protocol

open Qt Cbor Codec

/-- The maps at these keys. -/
def sectionMaps (root : QCborMap) (keys : List QString) : List QCborMap :=
  keys.filterMap fun key => match root.value key with
    | .map m => some m
    | _ => none

/-- The maps in the list at this key. -/
def itemMaps (root : QCborMap) (key : QString) : List QCborMap :=
  match root.value key with
  | .array values => values.filterMap fun value => match value with
    | .map m => some m
    | _ => none
  | _ => []

def infoMaps (root : QCborMap) : List QCborMap :=
  (sectionMaps root ["system_info"]).flatMap fun info =>
    info :: sectionMaps info ["host", "os", "kernel", "hardware", "cpu", "memory"]

def metricsMaps (root : QCborMap) : List QCborMap :=
  (sectionMaps root ["metrics"]).flatMap fun metrics =>
    metrics :: sectionMaps metrics ["cpu", "memory", "system"] ++
      (sectionMaps metrics ["cpu"]).flatMap (itemMaps · "logical_cpus") ++
      itemMaps metrics "storage_volumes" ++ itemMaps metrics "network_interfaces" ++
      itemMaps metrics "gpus"

/-- Every map that the decoder reads of a message. -/
def mapsRead (root : QCborMap) : List QCborMap := root :: infoMaps root ++ metricsMaps root

/-- Some key stands in the map twice. -/
def HasDuplicateKey (m : QCborMap) : Prop := ¬(m.map Prod.fst).Nodup

/-- The first `interval_s` is an integer from 1 to 5. -/
def HasInterval (root : QCborMap) : Prop :=
  ∃ i, root.value "interval_s" = .integer i ∧ 1 ≤ i ∧ i ≤ 5

@[mk_iff]
structure IsHello (root : QCborMap) : Prop where
  displayName : ∃ s, root.value "display_name" = .string s ∧ TextWithin 128 s
  interval : HasInterval root
  systemInfo : (infoFromMap (root.value "system_info")).isSome

@[mk_iff]
structure IsRegistrationResult (root : QCborMap) : Prop where
  accepted : ∃ b, root.value "accepted" = .boolean b
  reason : root.value "reason" = .undefined ∨
    ∃ s, root.value "reason" = .string s ∧ (toUtf8 s).length ≤ 64

@[mk_iff]
structure IsSnapshot (root : QCborMap) : Prop where
  interval : HasInterval root
  sequence : ∃ i, root.value "sequence" = .integer i ∧ 0 ≤ i
  systemInfo : (infoFromMap (root.value "system_info")).isSome
  metrics : root.value "metrics" = .undefined ∨ (metricsFromMap (root.value "metrics")).isSome

/-- What the first entry of each key has to say in a message of one of the three types. -/
@[mk_iff]
structure IsMessage (root : QCborMap) : Prop where
  version : root.value "version" = .integer telemetryProtocolVersion
  deviceId : (idOf root "device_id").isSome
  instanceId : (idOf root "instance_id").isSome
  body : (root.value "type" = .string "hello" ∧ IsHello root) ∨
    (root.value "type" = .string "registration_result" ∧ IsRegistrationResult root) ∨
    (root.value "type" = .string "snapshot" ∧ IsSnapshot root)

/-- The datagram `b`, whose first item reads as `first`, is refused for its size or for
what that item says. -/
def RefusedFor (b : QByteArray) (first : Option QCborValue) : Prop :=
  b = [] ∨ maximumDatagramSize < b.length ∨ ∀ root, first = some (.map root) → ¬IsMessage root

section Readers

variable {root : QCborMap} {device inst : QUuid}

theorem isSome_readDisplayName :
    (readDisplayName (root.value "display_name")).isSome ↔
      ∃ s, root.value "display_name" = .string s ∧ TextWithin 128 s := by
  unfold readDisplayName
  cases root.value "display_name" <;> simp [validText, TextWithin]

theorem isSome_readInterval : (readInterval (root.value "interval_s")).isSome ↔ HasInterval root := by
  unfold readInterval HasInterval
  cases root.value "interval_s" <;> simp [Int64.not_lt]

theorem isSome_readSequence : (readSequence (root.value "sequence")).isSome ↔
    ∃ i, root.value "sequence" = .integer i ∧ 0 ≤ i := by
  unfold readSequence
  cases root.value "sequence" <;> simp [Int64.not_lt]

theorem isSome_readReason : (readReason (root.value "reason")).isSome ↔
    root.value "reason" = .undefined ∨
      ∃ s, root.value "reason" = .string s ∧ (toUtf8 s).length ≤ 64 := by
  unfold readReason
  cases root.value "reason" <;> simp

theorem isSome_readMetrics : (readMetrics (root.value "metrics")).isSome ↔
    root.value "metrics" = .undefined ∨ (metricsFromMap (root.value "metrics")).isSome := by
  unfold readMetrics
  cases root.value "metrics" <;> simp

theorem isSome_decodeHello : (decodeHello root device inst).message.isSome ↔ IsHello root := by
  rw [isHello_iff, ← isSome_readDisplayName, ← isSome_readInterval]
  unfold decodeHello
  cases readDisplayName (root.value "display_name") <;>
    cases readInterval (root.value "interval_s") <;>
    cases infoFromMap (root.value "system_info") <;> simp [accept, reject]

theorem isSome_decodeRegistrationResult :
    (decodeRegistrationResult root device inst).message.isSome ↔ IsRegistrationResult root := by
  rw [isRegistrationResult_iff, ← isSome_readReason]
  unfold decodeRegistrationResult
  cases root.value "accepted" <;> cases readReason (root.value "reason") <;> simp [accept, reject]

theorem isSome_decodeSnapshot : (decodeSnapshot root device inst).message.isSome ↔ IsSnapshot root := by
  rw [isSnapshot_iff, ← isSome_readSequence, ← isSome_readInterval, ← isSome_readMetrics]
  unfold decodeSnapshot
  cases readInterval (root.value "interval_s") <;>
    cases readSequence (root.value "sequence") <;>
    cases infoFromMap (root.value "system_info") <;>
    cases readMetrics (root.value "metrics") <;> simp [accept, reject]

/-- The decoder accepts a map exactly if it is a message; only the first entry of a key counts. -/
theorem isSome_decodeRoot : (decodeRoot root).message.isSome ↔ IsMessage root := by
  rw [isMessage_iff]
  unfold decodeRoot
  cases root.value "version" with
  | integer version =>
    by_cases hv : version = telemetryProtocolVersion
    · cases root.value "type" with
      | string type =>
        cases idOf root "device_id" with
        | none => simp [hv, reject]
        | some device =>
          cases idOf root "instance_id" with
          | none => simp [hv, reject]
          | some inst =>
            simp only [hv, ne_eq, not_true_eq_false, if_false]
            split_ifs with h₁ h₂ h₃
            · simp [h₁, isSome_decodeHello]
            · simp [h₂, isSome_decodeRegistrationResult]
            · simp [h₃, isSome_decodeSnapshot]
            · simp [h₁, h₂, h₃, reject]
      | _ => simp [hv, reject]
    · simp [hv, reject]
  | _ => simp [reject]

end Readers

/-- What decides on a datagram, given its first item. -/
theorem message_eq_none_iff (qt : QtCbor) (b : QByteArray) :
    (decodeMessage qt b).message = none ↔ RefusedFor b (qt.fromCbor b) := by
  unfold decodeMessage RefusedFor
  by_cases hb : b = []
  · simp [hb, reject]
  by_cases hlen : maximumDatagramSize < b.length
  · simp [hlen, reject]
  simp only [hb, hlen, List.isEmpty_iff, false_or, decide_false, Bool.or_false, if_false]
  cases qt.fromCbor b with
  | none => simp [reject]
  | some first =>
    cases first with
    | map root =>
      have hroot : (decodeRoot root).message.isSome ↔ IsMessage root := isSome_decodeRoot
      simp [← hroot, Option.isSome_iff_ne_none]
    | _ => simp [reject]

/-- A data item with bytes after it is refused exactly if the item itself has a defect or
the datagram is too large; a message with a duplicate key is refused exactly if the first
entries of its keys have a defect or the datagram is too large. -/
theorem framing_iff {qt : QtCbor} (hqt : qt.ReadsFirstItem) :
    (∀ item rest, Wellformed item → rest ≠ [] →
      ((decodeMessage qt (item ++ rest)).message = none ↔
        RefusedFor (item ++ rest) (qt.fromCbor item))) ∧
    (∀ b root, qt.fromCbor b = some (.map root) → (∃ m ∈ mapsRead root, HasDuplicateKey m) →
      ((decodeMessage qt b).message = none ↔ RefusedFor b (some (.map root)))) := by
  refine ⟨?_, ?_⟩
  · intro item rest hitem _
    rw [message_eq_none_iff, hqt item rest hitem]
  · intro b root hb _
    rw [message_eq_none_iff, hb]

section Sample

/-- A registration result that says `accepted` twice, true and then false. -/
def twiceAccepted : QCborMap :=
  envelope "registration_result" ⟨List.replicate 16 0x11, List.length_replicate⟩
      ⟨List.replicate 16 0x22, List.length_replicate⟩ ++
    [(.string "accepted", .boolean true), (.string "accepted", .boolean false)]

def twiceAcceptedBytes : QByteArray := (QCborValue.map twiceAccepted).toItem.encode

theorem twiceAccepted_plain : (QCborValue.map twiceAccepted).Plain 16 := by
  simp [twiceAccepted, envelope, QCborValue.Plain]

theorem twiceAccepted_size : (QCborValue.map twiceAccepted).encodedSize = 111 := by
  decide +kernel

theorem fromCbor_twiceAcceptedBytes :
    QtCbor.reference.fromCbor twiceAcceptedBytes = some (.map twiceAccepted) := by
  refine QtCbor.reference_rfc8949.fromCbor_encode _ twiceAccepted_plain ?_
  rw [twiceAccepted_size]
  omega

theorem wellformed_twiceAcceptedBytes : Wellformed twiceAcceptedBytes := by
  refine wellformed_encode (QCborValue.fits_toItem twiceAccepted_plain ?_)
  rw [twiceAccepted_size]
  omega

theorem twiceAccepted_isMessage : IsMessage twiceAccepted where
  version := by simp [twiceAccepted, envelope, QCborMap.value]
  deviceId := by decide +kernel
  instanceId := by decide +kernel
  body := by
    refine .inr (.inl ⟨by simp [twiceAccepted, envelope, QCborMap.value], ⟨true, ?_⟩, .inl ?_⟩) <;>
      simp [twiceAccepted, envelope, QCborMap.value]

theorem twiceAccepted_duplicate : ∃ m ∈ mapsRead twiceAccepted, HasDuplicateKey m :=
  ⟨twiceAccepted, by simp [mapsRead], by simp [HasDuplicateKey, twiceAccepted, envelope]⟩

/-- Both defects at once, and the message is accepted: a trailing byte and a key that
stands in the root map twice. -/
theorem framing_not_strict :
    (∃ item rest, Wellformed item ∧ rest ≠ [] ∧
      (decodeMessage .reference (item ++ rest)).message ≠ none) ∧
    ∃ b root, QtCbor.reference.fromCbor b = some (.map root) ∧
      (∃ m ∈ mapsRead root, HasDuplicateKey m) ∧ (decodeMessage .reference b).message ≠ none := by
  have hlength : twiceAcceptedBytes.length = 111 := twiceAccepted_size
  have accepted : ∀ rest : QByteArray, rest.length ≤ 1 →
      (decodeMessage .reference (twiceAcceptedBytes ++ rest)).message ≠ none := by
    intro rest hrest
    rw [Ne, message_eq_none_iff,
      QtCbor.reference_readsFirstItem _ rest wellformed_twiceAcceptedBytes,
      fromCbor_twiceAcceptedBytes]
    rintro (h | h | h)
    · have := congrArg List.length h
      simp [hlength] at this
    · simp only [List.length_append, hlength, maximumDatagramSize] at h
      omega
    · exact h _ rfl twiceAccepted_isMessage
  refine ⟨⟨twiceAcceptedBytes, [0x00], wellformed_twiceAcceptedBytes, by simp,
    accepted [0x00] (by simp)⟩, twiceAcceptedBytes, twiceAccepted, fromCbor_twiceAcceptedBytes,
    twiceAccepted_duplicate, ?_⟩
  simpa using accepted [] (by simp)

theorem framing_iff_sample :
    (decodeMessage .reference (twiceAcceptedBytes ++ [0x00])).message = none ↔
      RefusedFor (twiceAcceptedBytes ++ [0x00]) (QtCbor.reference.fromCbor twiceAcceptedBytes) :=
  (framing_iff QtCbor.reference_readsFirstItem).1 _ _ wellformed_twiceAcceptedBytes (by simp)

end Sample

end RpiDashboard.Protocol
