import RpiDashboard.Protocol.WireFormat
import RpiDashboard.Qt.ValueLaws
import Mathlib.Algebra.Order.BigOperators.Group.List

/-! The dashboard's encoder: its maps carry the values they are made from in every
order of their entries, are plain, and are small. -/

namespace RpiDashboard.Protocol.Codec

open Numeric Qt Cbor

variable {m root : QCborMap} {key : QString}

@[simp] theorem value_add (m : QCborMap) (k key : QString) (value : Option QCborValue) :
    (add m k value).value key = if k = key then value.getD (m.value key) else m.value key := by
  cases value <;> simp [add]

theorem distinct_add (h : m.Distinct) (k : QString) (value : Option QCborValue) :
    (add m k value).Distinct := by
  cases value with
  | none => exact h
  | some v => exact h.insert k v

theorem addInteger_eq {value : Option UInt64} (h : OptionalInteger value) (m : QCborMap)
    (k : QString) : addInteger m k value = add m k (value.map fun n => .integer n.toInt64) := by
  cases value with
  | none => rfl
  | some n =>
    have hn : n ≤ maxInteger := UInt64.le_iff_toNat_le.mpr (h n rfl)
    simp [addInteger, Option.filter_some, hn]

def optionalSection (s : QCborMap) : Option QCborValue := if s.isEmpty then none else some (.map s)

theorem addSection_eq (m : QCborMap) (k : QString) (s : QCborMap) :
    addSection m k s = add m k (optionalSection s) := by
  cases s <;> rfl

def optionalList (xs : List QCborValue) : Option QCborValue :=
  if xs.isEmpty then none else some (.array xs)

theorem addList_eq (m : QCborMap) (k : QString) (xs : List QCborValue) :
    addList m k xs = add m k (optionalList xs) := by
  cases xs <;> rfl

theorem distinct_envelope (type : QString) (device inst : QUuid) :
    (envelope type device inst).Distinct := by
  simp [envelope, QCborMap.Distinct]

theorem registrationResultToMap_eq (value : RegistrationResult) :
    registrationResultToMap value =
      add ((envelope "registration_result" value.deviceId value.instanceId).insert "accepted"
        (.boolean value.accepted)) "reason"
        ((if value.reason = "" then none else some value.reason).map .string) := by
  rw [registrationResultToMap]
  split_ifs <;> rfl

theorem snapshotToMap_eq (value : DeviceSnapshot) :
    snapshotToMap value =
      add ((((envelope "snapshot" value.deviceId value.instanceId).insert "interval_s"
        (.integer (Int64.ofInt value.intervalSeconds))).insert "sequence"
        (.integer value.sequence.toInt64)).insert "system_info"
        (.map (infoToMap value.systemInfo))) "metrics"
        (value.metrics.map fun metrics => .map (metricsToMap metrics)) := by
  rw [snapshotToMap]
  cases value.metrics <;> rfl

section Carried

variable {sort : QCborMap → QCborMap}

@[simp] theorem arrange_ofText (value : Option QString) :
    (ofText value).arrange sort = ofText value := by
  cases value <;> simp [optional]

@[simp] theorem arrange_ofCount (value : Option UInt32) :
    (ofCount value).arrange sort = ofCount value := by
  cases value <;> simp [optional]

@[simp] theorem arrange_ofInteger (value : Option UInt64) :
    (ofInteger value).arrange sort = ofInteger value := by
  cases value <;> simp [optional]

@[simp] theorem arrange_ofNumber (value : Option Double) :
    (ofNumber value).arrange sort = ofNumber value := by
  cases value <;> simp [optional]

variable (hsort : ∀ m, (sort m).Perm m)

include hsort

/-- A field of a map is still there after rearranging it. -/
theorem value_arrange_of {v : QCborValue} (hd : m.Distinct) (hv : m.value key = v)
    (hfix : v.arrange sort = v) : (m.arrange sort).value key = v := by
  rw [QCborMap.value_arrange hsort hd, hv, hfix]

theorem sectionOf_arrange {s : QCborMap} (hd : root.Distinct)
    (hv : root.value key = optional (optionalSection s)) :
    sectionOf (root.arrange sort) key = some (s.arrange sort) := by
  rw [sectionOf, QCborMap.value_arrange hsort hd, hv]
  cases s with
  | nil => simp [optional, optionalSection, QCborMap.arrange_nil hsort]
  | cons e s => simp [optional, optionalSection]

theorem sectionCarriedBy_arrange {s : QCborMap} {P : QCborMap → Prop} (hd : root.Distinct)
    (hv : root.value key = optional (optionalSection s)) (hP : P (s.arrange sort)) :
    SectionCarriedBy P (root.arrange sort) key :=
  ⟨s.arrange sort, sectionOf_arrange hsort hd hv, hP⟩

theorem listCarriedBy_arrange {α : Type} {R : α → QCborMap → Prop} {toMap : α → QCborMap}
    {entries : List α} (hd : m.Distinct)
    (hv : m.value key = optional (optionalList (entries.map fun e => .map (toMap e))))
    (hR : ∀ e ∈ entries, R e ((toMap e).arrange sort)) :
    ListCarriedBy R entries ((m.arrange sort).value key) := by
  rw [QCborMap.value_arrange hsort hd, hv]
  cases entries with
  | nil => exact .inl ⟨rfl, by simp [optional, optionalList]⟩
  | cons e es =>
    refine .inr ⟨(e :: es).map fun e => (toMap e).arrange sort, ?_, ?_⟩
    · simp [optional, optionalList, Function.comp_def]
    · rw [List.forall₂_map_right_iff]
      exact List.forall₂_same.mpr hR

theorem hostToMap_carries (host : SystemInfo.Host) :
    host.CarriedBy ((hostToMap host).arrange sort) := by
  have hd : (hostToMap host).Distinct := distinct_add QCborMap.distinct_nil _ _
  exact ⟨value_arrange_of hsort hd (by simp [hostToMap, addText, optional]) (by simp)⟩

theorem osToMap_carries (os : SystemInfo.OperatingSystem) :
    os.CarriedBy ((osToMap os).arrange sort) := by
  have hd : (osToMap os).Distinct := by
    repeat' apply distinct_add
    exact QCborMap.distinct_nil
  constructor <;>
    exact value_arrange_of hsort hd (by simp [osToMap, addText, optional]) (by simp)

theorem kernelToMap_carries (kernel : SystemInfo.Kernel) :
    kernel.CarriedBy ((kernelToMap kernel).arrange sort) := by
  have hd : (kernelToMap kernel).Distinct := by
    repeat' apply distinct_add
    exact QCborMap.distinct_nil
  constructor <;>
    exact value_arrange_of hsort hd (by simp [kernelToMap, addText, optional]) (by simp)

theorem hardwareToMap_carries (hardware : SystemInfo.Hardware) :
    hardware.CarriedBy ((hardwareToMap hardware).arrange sort) := by
  have hd : (hardwareToMap hardware).Distinct := by
    repeat' apply distinct_add
    exact QCborMap.distinct_nil
  refine ⟨?_, ?_, ?_, ?_⟩
  · exact value_arrange_of hsort hd (by simp [hardwareToMap, addText, optional]) (by simp)
  · exact value_arrange_of hsort hd (by simp [hardwareToMap, addText, optional]) (by simp)
  · exact value_arrange_of hsort hd (by simp [hardwareToMap, addText, optional]) (by simp)
  · refine value_arrange_of hsort hd (by simp [hardwareToMap, addText, optional]) ?_
    cases hardware.compatibleIds <;> simp [optional]

theorem cpuToMap_carries (cpu : SystemInfo.Cpu) :
    cpu.CarriedBy ((cpuToMap cpu).arrange sort) := by
  have hd : (cpuToMap cpu).Distinct := by
    repeat' apply distinct_add
    exact QCborMap.distinct_nil
  constructor <;>
    exact value_arrange_of hsort hd (by simp [cpuToMap, addText, addCount, optional]) (by simp)

theorem memoryToMap_carries {memory : SystemInfo.Memory} (hv : OptionalInteger memory.totalBytes) :
    memory.CarriedBy ((memoryToMap memory).arrange sort) := by
  rw [memoryToMap, addInteger_eq hv]
  have hd := distinct_add QCborMap.distinct_nil "total_bytes"
    (memory.totalBytes.map fun n => .integer n.toInt64)
  exact ⟨value_arrange_of hsort hd (by simp [optional]) (by simp)⟩

theorem infoToMap_carries {info : SystemInfo} (hv : OptionalInteger info.memory.totalBytes) :
    info.CarriedBy ((infoToMap info).arrange sort) := by
  have hd : (infoToMap info).Distinct := by
    simp only [infoToMap, addSection_eq]
    repeat' apply distinct_add
    exact QCborMap.distinct_nil
  constructor
  · exact sectionCarriedBy_arrange hsort hd (by simp [infoToMap, addSection_eq, optional])
      (hostToMap_carries hsort info.host)
  · exact sectionCarriedBy_arrange hsort hd (by simp [infoToMap, addSection_eq, optional])
      (osToMap_carries hsort info.os)
  · exact sectionCarriedBy_arrange hsort hd (by simp [infoToMap, addSection_eq, optional])
      (kernelToMap_carries hsort info.kernel)
  · exact sectionCarriedBy_arrange hsort hd (by simp [infoToMap, addSection_eq, optional])
      (hardwareToMap_carries hsort info.hardware)
  · exact sectionCarriedBy_arrange hsort hd (by simp [infoToMap, addSection_eq, optional])
      (cpuToMap_carries hsort info.cpu)
  · exact sectionCarriedBy_arrange hsort hd (by simp [infoToMap, addSection_eq, optional])
      (memoryToMap_carries hsort hv)

theorem logicalCpuToMap_carries {entry : SystemMetrics.LogicalCpu} (hv : entry.Valid) :
    entry.CarriedBy ((logicalCpuToMap entry).arrange sort) := by
  have hd : (logicalCpuToMap entry).Distinct := by
    repeat' apply distinct_add
    simp [QCborMap.Distinct]
  constructor <;>
    exact value_arrange_of hsort hd
      (by simp [logicalCpuToMap, addNumber, addInteger_eq hv.frequencyHz, optional]) (by simp)

theorem metricsCpuToMap_carries {cpu : SystemMetrics.Cpu} (hv : cpu.Valid) :
    cpu.CarriedBy ((metricsCpuToMap cpu).arrange sort) := by
  have hd : (metricsCpuToMap cpu).Distinct := by
    simp only [metricsCpuToMap, addList_eq]
    repeat' apply distinct_add
    exact QCborMap.distinct_nil
  refine ⟨?_, ?_, ?_⟩
  · exact value_arrange_of hsort hd
      (by simp [metricsCpuToMap, addNumber, addList_eq, optional]) (by simp)
  · exact value_arrange_of hsort hd
      (by simp [metricsCpuToMap, addNumber, addList_eq, optional]) (by simp)
  · exact listCarriedBy_arrange hsort hd
      (by simp [metricsCpuToMap, addNumber, addList_eq, optional])
      fun entry he => logicalCpuToMap_carries hsort (hv.logicalCpus entry he)

theorem metricsMemoryToMap_carries {memory : SystemMetrics.Memory} (hv : memory.Valid) :
    memory.CarriedBy ((metricsMemoryToMap memory).arrange sort) := by
  have hd : (metricsMemoryToMap memory).Distinct := by
    repeat' apply distinct_add
    exact QCborMap.distinct_nil
  constructor <;>
    exact value_arrange_of hsort hd
      (by simp [metricsMemoryToMap, addInteger_eq hv.totalBytes, addInteger_eq hv.availableBytes,
        addInteger_eq hv.swapTotalBytes, addInteger_eq hv.swapAvailableBytes, optional]) (by simp)

theorem systemToMap_carries (system : SystemMetrics.System) :
    system.CarriedBy ((systemToMap system).arrange sort) := by
  have hd : (systemToMap system).Distinct := by
    repeat' apply distinct_add
    exact QCborMap.distinct_nil
  constructor <;>
    exact value_arrange_of hsort hd (by simp [systemToMap, addNumber, optional]) (by simp)

theorem storageVolumeToMap_carries {entry : SystemMetrics.StorageVolume} (hv : entry.Valid) :
    entry.CarriedBy ((storageVolumeToMap entry).arrange sort) := by
  have hd : (storageVolumeToMap entry).Distinct := by
    repeat' apply distinct_add
    simp [QCborMap.Distinct]
  constructor <;>
    exact value_arrange_of hsort hd
      (by simp [storageVolumeToMap, addInteger_eq hv.totalBytes, addInteger_eq hv.availableBytes,
        optional]) (by simp)

theorem networkInterfaceToMap_carries {entry : SystemMetrics.NetworkInterface} (hv : entry.Valid) :
    entry.CarriedBy ((networkInterfaceToMap entry).arrange sort) := by
  have hd : (networkInterfaceToMap entry).Distinct := by
    repeat' apply distinct_add
    simp [QCborMap.Distinct]
  constructor <;>
    exact value_arrange_of hsort hd
      (by simp [networkInterfaceToMap, addNumber, addInteger_eq hv.rxBytes,
        addInteger_eq hv.txBytes, optional]) (by simp)

theorem gpuToMap_carries {entry : SystemMetrics.Gpu} (hv : entry.Valid) :
    entry.CarriedBy ((gpuToMap entry).arrange sort) := by
  have hd : (gpuToMap entry).Distinct := by
    repeat' apply distinct_add
    simp [QCborMap.Distinct]
  constructor <;>
    exact value_arrange_of hsort hd
      (by simp [gpuToMap, addNumber, addInteger_eq hv.memoryTotalBytes,
        addInteger_eq hv.memoryUsedBytes, addInteger_eq hv.coreClockHz,
        addInteger_eq hv.memoryClockHz, optional]) (by simp)

theorem metricsToMap_carries {metrics : SystemMetrics} (hv : metrics.Valid) :
    metrics.CarriedBy ((metricsToMap metrics).arrange sort) := by
  have hd : (metricsToMap metrics).Distinct := by
    simp only [metricsToMap, addSection_eq, addList_eq]
    repeat' apply distinct_add
    exact QCborMap.distinct_nil
  constructor
  · exact sectionCarriedBy_arrange hsort hd
      (by simp [metricsToMap, addSection_eq, addList_eq, optional])
      (metricsCpuToMap_carries hsort hv.cpu)
  · exact sectionCarriedBy_arrange hsort hd
      (by simp [metricsToMap, addSection_eq, addList_eq, optional])
      (metricsMemoryToMap_carries hsort hv.memory)
  · exact sectionCarriedBy_arrange hsort hd
      (by simp [metricsToMap, addSection_eq, addList_eq, optional])
      (systemToMap_carries hsort metrics.system)
  · exact listCarriedBy_arrange hsort hd
      (by simp [metricsToMap, addSection_eq, addList_eq, optional])
      fun entry he => storageVolumeToMap_carries hsort (hv.storageVolumes entry he)
  · exact listCarriedBy_arrange hsort hd
      (by simp [metricsToMap, addSection_eq, addList_eq, optional])
      fun entry he => networkInterfaceToMap_carries hsort (hv.networkInterfaces entry he)
  · exact listCarriedBy_arrange hsort hd
      (by simp [metricsToMap, addSection_eq, addList_eq, optional])
      fun entry he => gpuToMap_carries hsort (hv.gpus entry he)

theorem helloToMap_carries {value : Hello} (hv : value.Valid) :
    value.CarriedBy ((helloToMap value).arrange sort) := by
  have hd : (helloToMap value).Distinct :=
    (((distinct_envelope _ _ _).insert _ _).insert _ _).insert _ _
  have hinfo : (helloToMap value).value "system_info" = .map (infoToMap value.systemInfo) := by
    simp [helloToMap]
  refine { toEnvelopeCarriedBy := ?_, displayName := ?_, interval := ?_, systemInfo := ?_ }
  · constructor <;> exact value_arrange_of hsort hd (by simp [helloToMap, envelope]) (by simp)
  · exact value_arrange_of hsort hd (by simp [helloToMap]) (by simp)
  · exact value_arrange_of hsort hd (by simp [helloToMap]) (by simp)
  · refine ⟨(infoToMap value.systemInfo).arrange sort, ?_,
      infoToMap_carries hsort hv.systemInfo.totalBytes⟩
    rw [QCborMap.value_arrange hsort hd, hinfo, QCborValue.arrange_map]

theorem registrationResultToMap_carries (value : RegistrationResult) :
    value.CarriedBy ((registrationResultToMap value).arrange sort) := by
  have hd : (registrationResultToMap value).Distinct := by
    rw [registrationResultToMap_eq]
    exact distinct_add ((distinct_envelope _ _ _).insert _ _) _ _
  refine { toEnvelopeCarriedBy := ?_, accepted := ?_, reason := ?_ }
  · constructor <;>
      exact value_arrange_of hsort hd (by simp [registrationResultToMap_eq, envelope]) (by simp)
  · exact value_arrange_of hsort hd (by simp [registrationResultToMap_eq]) (by simp)
  · exact value_arrange_of hsort hd
      (by simp [registrationResultToMap_eq, envelope, optional]) (by simp)

theorem snapshotToMap_carries {value : DeviceSnapshot} (hv : value.Valid) :
    value.CarriedBy ((snapshotToMap value).arrange sort) := by
  have hd : (snapshotToMap value).Distinct := by
    rw [snapshotToMap_eq]
    exact distinct_add ((((distinct_envelope _ _ _).insert _ _).insert _ _).insert _ _) _ _
  have hinfo : (snapshotToMap value).value "system_info" = .map (infoToMap value.systemInfo) := by
    simp [snapshotToMap_eq]
  have hmetrics : (snapshotToMap value).value "metrics" =
      optional (value.metrics.map fun metrics => .map (metricsToMap metrics)) := by
    simp [snapshotToMap_eq, envelope, optional]
  refine {
    toEnvelopeCarriedBy := ?_
    interval := ?_
    sequence := ?_
    systemInfo := ?_
    metrics := ?_ }
  · constructor <;>
      exact value_arrange_of hsort hd (by simp [snapshotToMap_eq, envelope]) (by simp)
  · exact value_arrange_of hsort hd (by simp [snapshotToMap_eq]) (by simp)
  · exact value_arrange_of hsort hd (by simp [snapshotToMap_eq]) (by simp)
  · refine ⟨(infoToMap value.systemInfo).arrange sort, ?_,
      infoToMap_carries hsort hv.systemInfo.totalBytes⟩
    rw [QCborMap.value_arrange hsort hd, hinfo, QCborValue.arrange_map]
  · rw [QCborMap.value_arrange hsort hd, hmetrics]
    have hmv := hv.metrics
    cases hm : value.metrics with
    | none => simp [optional]
    | some metrics =>
      refine ⟨(metricsToMap metrics).arrange sort, ?_, metricsToMap_carries hsort (hmv metrics hm)⟩
      simp [optional]

theorem messageToMap_carries {message : TelemetryMessage} (hv : message.Valid) :
    message.CarriedBy ((messageToMap message).arrange sort) := by
  cases message with
  | hello value => exact helloToMap_carries hsort hv
  | registrationResult value => exact registrationResultToMap_carries hsort value
  | snapshot value => exact snapshotToMap_carries hsort hv

end Carried

section Plain

variable {depth : Nat}

theorem plain_add (h : m.Plain (depth + 1)) (k : QString) {value : Option QCborValue}
    (hv : ∀ v ∈ value, v.Plain (depth + 1)) : (add m k value).Plain (depth + 1) := by
  cases value with
  | none => exact h
  | some v => exact h.insert k (hv v rfl)

theorem plain_addText (h : m.Plain (depth + 1)) (k : QString) (value : Option QString) :
    (addText m k value).Plain (depth + 1) :=
  plain_add h k (by simp)

theorem plain_addCount (h : m.Plain (depth + 1)) (k : QString) (value : Option UInt32) :
    (addCount m k value).Plain (depth + 1) :=
  plain_add h k (by simp)

theorem plain_addInteger (h : m.Plain (depth + 1)) (k : QString) (value : Option UInt64) :
    (addInteger m k value).Plain (depth + 1) := by
  refine plain_add h k fun v hv => ?_
  obtain ⟨n, -, rfl⟩ := Option.map_eq_some_iff.mp hv
  exact QCborValue.plain_integer depth _

theorem plain_addNumber (h : m.Plain (depth + 1)) (k : QString) (value : Option Double) :
    (addNumber m k value).Plain (depth + 1) :=
  plain_add h k (by simp)

theorem plain_addSection (h : m.Plain (depth + 1)) (k : QString) {s : QCborMap}
    (hs : s.Plain depth) : (addSection m k s).Plain (depth + 1) := by
  rw [addSection_eq]
  refine plain_add h k fun v hv => ?_
  simp only [optionalSection, Option.mem_def, Option.ite_none_left_eq_some, Option.some.injEq] at hv
  exact hv.2 ▸ hs

theorem plain_addList {α : Type} (h : m.Plain (depth + 2)) (k : QString) {toMap : α → QCborMap}
    {entries : List α} (hs : ∀ e ∈ entries, (toMap e).Plain depth) :
    (addList m k (entries.map fun e => .map (toMap e))).Plain (depth + 2) := by
  rw [addList_eq]
  refine plain_add h k fun v hv => ?_
  simp only [optionalList, Option.mem_def, Option.ite_none_left_eq_some, Option.some.injEq] at hv
  rw [← hv.2]
  intro x hx
  obtain ⟨e, he, rfl⟩ := List.mem_map.mp hx
  exact hs e he

theorem infoToMap_plain (depth : Nat) (info : SystemInfo) :
    (infoToMap info).Plain (depth + 4) := by
  have hids : ∀ v ∈ info.hardware.compatibleIds.map fun ids => QCborValue.array (ids.map .string),
      v.Plain (depth + 3) := by
    intro v hv
    obtain ⟨ids, -, rfl⟩ := Option.map_eq_some_iff.mp hv
    intro x hx
    obtain ⟨s, -, rfl⟩ := List.mem_map.mp hx
    trivial
  have hhardware : (hardwareToMap info.hardware).Plain (depth + 3) := by
    refine plain_add ?_ _ hids
    repeat' apply plain_addText
    exact QCborMap.plain_nil _
  refine plain_addSection (plain_addSection (plain_addSection (plain_addSection (plain_addSection
    (plain_addSection (QCborMap.plain_nil _) _ ?_) _ ?_) _ ?_) _ hhardware) _ ?_) _ ?_
  · exact plain_addText (QCborMap.plain_nil _) _ _
  · repeat' apply plain_addText
    exact QCborMap.plain_nil _
  · repeat' apply plain_addText
    exact QCborMap.plain_nil _
  · apply plain_addCount
    apply plain_addCount
    repeat' apply plain_addText
    exact QCborMap.plain_nil _
  · exact plain_addInteger (QCborMap.plain_nil _) _ _

theorem plain_name (k s : QString) : QCborMap.Plain (depth + 1) [(.string k, .string s)] := by
  simp [QCborMap.Plain]

theorem metricsToMap_plain (depth : Nat) (metrics : SystemMetrics) :
    (metricsToMap metrics).Plain (depth + 5) := by
  refine plain_addList (plain_addList (plain_addList (plain_addSection (plain_addSection
    (plain_addSection (QCborMap.plain_nil _) _ ?_) _ ?_) _ ?_) _ ?_) _ ?_) _ ?_
  · refine plain_addList (plain_addNumber (plain_addNumber (QCborMap.plain_nil _) _ _) _ _) _ ?_
    intro e _
    exact plain_addInteger (plain_addNumber (plain_name _ _) _ _) _ _
  · repeat' apply plain_addInteger
    exact QCborMap.plain_nil _
  · repeat' apply plain_addNumber
    exact QCborMap.plain_nil _
  · intro e _
    repeat' apply plain_addInteger
    simp [QCborMap.Plain]
  · intro e _
    exact plain_addNumber (plain_addNumber (plain_addInteger (plain_addInteger
      (plain_name _ _) _ _) _ _) _ _) _ _
  · intro e _
    apply plain_addNumber
    repeat' apply plain_addInteger
    exact plain_addNumber (plain_name _ _) _ _

theorem envelope_plain (type : QString) (device inst : QUuid) :
    (envelope type device inst).Plain (depth + 1) := by
  simp [envelope, QCborMap.Plain]

theorem system_info_plain (depth : Nat) (info : SystemInfo) :
    (QCborValue.map (infoToMap info)).Plain (depth + 6) := infoToMap_plain (depth + 1) info

theorem messageToMap_plain (depth : Nat) (message : TelemetryMessage) :
    (messageToMap message).Plain (depth + 6) := by
  cases message with
  | hello value =>
    exact (((envelope_plain _ _ _).insert _ (QCborValue.plain_string _ _)).insert _
      (QCborValue.plain_integer _ _)).insert _ (system_info_plain depth value.systemInfo)
  | registrationResult value =>
    rw [messageToMap, registrationResultToMap_eq]
    exact plain_add ((envelope_plain _ _ _).insert _ (QCborValue.plain_boolean _ _)) _ (by simp)
  | snapshot value =>
    rw [messageToMap, snapshotToMap_eq]
    refine plain_add ((((envelope_plain _ _ _).insert _ (QCborValue.plain_integer _ _)).insert _
      (QCborValue.plain_integer _ _)).insert _ (system_info_plain depth value.systemInfo)) _
      fun v hv => ?_
    obtain ⟨metrics, -, rfl⟩ := Option.map_eq_some_iff.mp hv
    exact metricsToMap_plain depth metrics

end Plain

section Size

theorem encodedSize_integer_le (i : Int64) : (QCborValue.integer i).encodedSize ≤ 9 := by
  rw [QCborValue.encodedSize, QCborValue.toItem]
  split <;> exact length_head_le_nine _ _

/-- At most `n` entries that take at most `s` bytes together. -/
structure Bounded (m : QCborMap) (n s : Nat) : Prop where
  length_le : m.length ≤ n
  size_le : m.entriesSize ≤ s

variable {n s b : Nat}

theorem bounded_nil : Bounded [] 0 0 := ⟨by simp, by simp [QCborMap.entriesSize]⟩

theorem Bounded.insert (h : Bounded m n s) {k : QString} (hk : textSize k ≤ 24) {v : QCborValue}
    (hv : v.encodedSize ≤ b) : Bounded (m.insert k v) (n + 1) (s + 24 + b) where
  length_le := (QCborMap.length_insert_le m k v).trans (Nat.succ_le_succ h.length_le)
  size_le := by
    have := QCborMap.entriesSize_insert_le m k v
    have := h.size_le
    omega

theorem Bounded.add (h : Bounded m n s) {k : QString} (hk : textSize k ≤ 24)
    {value : Option QCborValue} (hv : ∀ v ∈ value, v.encodedSize ≤ b) :
    Bounded (add m k value) (n + 1) (s + 24 + b) := by
  cases value with
  | none =>
    have hl := h.length_le
    have hs := h.size_le
    exact ⟨by rw [Codec.add]; omega, by rw [Codec.add]; omega⟩
  | some v => exact h.insert hk (hv v rfl)

theorem Bounded.addText (h : Bounded m n s) {k : QString} (hk : textSize k ≤ 24)
    {value : Option QString} (hv : OptionalText value) :
    Bounded (addText m k value) (n + 1) (s + 24 + 259) := by
  refine h.add hk fun v hm => ?_
  obtain ⟨t, ht, rfl⟩ := Option.map_eq_some_iff.mp hm
  exact textSize_le (hv t ht).2 (by omega)

theorem Bounded.addCount (h : Bounded m n s) {k : QString} (hk : textSize k ≤ 24)
    (value : Option UInt32) : Bounded (addCount m k value) (n + 1) (s + 24 + 9) := by
  refine h.add hk fun v hm => ?_
  obtain ⟨t, -, rfl⟩ := Option.map_eq_some_iff.mp hm
  exact encodedSize_integer_le _

theorem Bounded.addInteger (h : Bounded m n s) {k : QString} (hk : textSize k ≤ 24)
    (value : Option UInt64) : Bounded (addInteger m k value) (n + 1) (s + 24 + 9) := by
  refine h.add hk fun v hm => ?_
  obtain ⟨t, -, rfl⟩ := Option.map_eq_some_iff.mp hm
  exact encodedSize_integer_le _

theorem Bounded.encodedSize_le (h : Bounded m n s) (hn : n < 24) :
    (QCborValue.map m).encodedSize ≤ s + 1 := by
  have hl := h.length_le
  have hs := h.size_le
  rw [QCborValue.encodedSize_map, length_head_of_lt (by omega)]
  omega

theorem Bounded.addSection (h : Bounded m n s) {k : QString} (hk : textSize k ≤ 24)
    {value : QCborMap} {n' s' : Nat} (hv : Bounded value n' s') (hn : n' < 24) :
    Bounded (addSection m k value) (n + 1) (s + 24 + (s' + 1)) := by
  rw [addSection_eq]
  refine h.add hk fun v hm => ?_
  simp only [optionalSection, Option.mem_def, Option.ite_none_left_eq_some, Option.some.injEq] at hm
  rw [← hm.2]
  exact hv.encodedSize_le hn

theorem encodedSize_ids_le {ids : List QString} (hv : UniqueNames 32 ids) :
    (QCborValue.array (ids.map .string)).encodedSize ≤ 2 + 32 * 259 := by
  have hlen := hv.length_le
  have hhead : (head 4 ids.length).length ≤ 2 := length_head_le_two (by omega) 4
  have hsum : (ids.map textSize).sum ≤ ids.length * 259 := by
    have := List.sum_le_card_nsmul (ids.map textSize) 259 (by
      intro x hx
      obtain ⟨t, ht, rfl⟩ := List.mem_map.mp hx
      exact textSize_le (hv.texts t ht).2 (by omega))
    simpa using this
  rw [QCborValue.encodedSize_array, List.length_map, List.map_map]
  change _ + (ids.map textSize).sum ≤ _
  omega

theorem infoToMap_bounded {info : SystemInfo} (hv : info.Valid) :
    Bounded (infoToMap info) 6 12242 := by
  have hhost : Bounded (hostToMap info.host) 1 283 := bounded_nil.addText (by decide) hv.hostName
  have hos : Bounded (osToMap info.os) 4 1132 :=
    (((bounded_nil.addText (by decide) hv.os.osFamily).addText (by decide) hv.os.osId).addText
      (by decide) hv.os.osVersion).addText (by decide) hv.os.osPrettyName
  have hkernel : Bounded (kernelToMap info.kernel) 2 566 :=
    (bounded_nil.addText (by decide) hv.kernel.kernelType).addText (by decide)
      hv.kernel.kernelVersion
  have hhardware : Bounded (hardwareToMap info.hardware) 4 9163 := by
    refine (((bounded_nil.addText (by decide) hv.hardware.manufacturer).addText (by decide)
      hv.hardware.model).addText (by decide) hv.hardware.boardRevision).add (b := 8290)
      (by decide) fun v hm => ?_
    obtain ⟨ids, hids, rfl⟩ := Option.map_eq_some_iff.mp hm
    exact encodedSize_ids_le (hv.hardware.compatibleIds ids hids)
  have hcpu : Bounded (cpuToMap info.cpu) 5 915 :=
    ((((bounded_nil.addText (by decide) hv.cpu.architecture).addText (by decide)
      hv.cpu.vendor).addText (by decide) hv.cpu.model).addCount (by decide) _).addCount
      (by decide) _
  have hmemory : Bounded (memoryToMap info.memory) 1 33 := bounded_nil.addInteger (by decide) _
  exact (((((bounded_nil.addSection (by decide) hhost (by omega)).addSection (by decide) hos
    (by omega)).addSection (by decide) hkernel (by omega)).addSection (by decide) hhardware
    (by omega)).addSection (by decide) hcpu (by omega)).addSection (by decide) hmemory (by omega)

theorem encodedSize_uuid (u : QUuid) : (QCborValue.byteArray u.toRfc4122).encodedSize = 17 := by
  have hu : u.toRfc4122.length = 16 := u.length_eq
  simp [QCborValue.encodedSize, QCborValue.toItem, Item.encode, hu, head]

theorem envelope_bounded {type : QString} (ht : textSize type ≤ 24) (device inst : QUuid) :
    Bounded (envelope type device inst) 4 126 := by
  refine ⟨Nat.le_refl 4, ?_⟩
  have h₁ : textSize "device_id" = 10 := by decide
  have h₂ : textSize "instance_id" = 12 := by decide
  have h₃ : textSize "type" = 5 := by decide
  have h₄ : textSize "version" = 8 := by decide
  have h₅ := encodedSize_integer_le telemetryProtocolVersion
  simp only [textSize] at h₁ h₂ h₃ h₄ ht
  simp only [envelope, QCborMap.entriesSize, List.map_cons, List.map_nil, List.sum_cons,
    List.sum_nil, encodedSize_uuid, h₁, h₂, h₃, h₄]
  omega

theorem encodedSize_hello_le {value : Hello} (hv : value.Valid) :
    (QCborValue.map (helloToMap value)).encodedSize ≤ maximumDatagramSize := by
  have hinfo := (infoToMap_bounded hv.systemInfo).encodedSize_le (by omega)
  have hname : (QCborValue.string value.displayName).encodedSize ≤ 131 :=
    textSize_le hv.displayName.2 (by omega)
  have henv := envelope_bounded (show textSize "hello" ≤ 24 by decide)
    value.deviceId value.instanceId
  have h := ((henv.insert (show textSize "display_name" ≤ 24 by decide) hname).insert
    (show textSize "interval_s" ≤ 24 by decide)
    (encodedSize_integer_le (Int64.ofInt value.intervalSeconds))).insert
    (show textSize "system_info" ≤ 24 by decide) hinfo
  exact (h.encodedSize_le (by omega)).trans (by decide)

/-- The map of a result, with its entries as they stand. -/
theorem registrationResultToMap_entries (value : RegistrationResult) :
    registrationResultToMap value =
      [(.string "device_id", .byteArray value.deviceId.toRfc4122),
        (.string "instance_id", .byteArray value.instanceId.toRfc4122),
        (.string "type", .string "registration_result"),
        (.string "version", .integer telemetryProtocolVersion),
        (.string "accepted", .boolean value.accepted)] ++
      if value.reason = "" then [] else [(.string "reason", .string value.reason)] := by
  rw [registrationResultToMap_eq]
  split_ifs <;> rfl

theorem encodedSize_registrationResult (value : RegistrationResult) :
    (QCborValue.map (registrationResultToMap value)).encodedSize =
      101 + if value.reason = "" then 0 else 7 + textSize value.reason := by
  have hboolean : (QCborValue.boolean value.accepted).encodedSize = 1 := by
    cases value.accepted <;> decide
  have hliterals : textSize "device_id" + textSize "instance_id" + textSize "type" +
      textSize "registration_result" + textSize "version" + textSize "accepted" +
      (QCborValue.integer telemetryProtocolVersion).encodedSize = 65 := by
    decide +kernel
  have hreason : textSize "reason" = 7 := by decide
  have hhead : ∀ n < 24, (head 5 n).length = 1 := fun n hn => length_head_of_lt hn 5
  rw [QCborValue.encodedSize_map, registrationResultToMap_entries, QCborMap.entriesSize]
  simp only [textSize] at hliterals hreason ⊢
  split_ifs
  · simp [encodedSize_uuid, hboolean, hhead]
    omega
  · simp [encodedSize_uuid, hboolean, hhead, hreason]
    omega

theorem encodedSize_registrationResult_le {value : RegistrationResult} (hv : value.Valid) :
    (QCborValue.map (registrationResultToMap value)).encodedSize ≤ maximumDatagramSize := by
  have hreason := textSize_le hv.reason (by omega)
  rw [encodedSize_registrationResult, maximumDatagramSize]
  split_ifs <;> omega

end Size

end RpiDashboard.Protocol.Codec
