import RpiDashboard.Protocol.WireFormat
import RpiDashboard.Qt.ValueLaws

/-! The decoder inverts `CarriedBy` on valid values. -/

namespace RpiDashboard.Protocol

open Numeric Qt

namespace Codec

variable {m root : QCborMap} {key : QString}

theorem validText_of_textWithin {s : QString} {limit : Nat} (h : TextWithin limit s) :
    validText s limit = true := by
  simpa [validText, TextWithin] using h

theorem toInt_toInt64 {n : UInt64} (h : InRange n) : n.toInt64.toInt = n.toNat := by
  have hn : 2 * n.toBitVec.toNat < 2 ^ 64 := by
    rw [InRange] at h
    simp only [UInt64.toNat_toBitVec]
    omega
  exact BitVec.toInt_eq_toNat_of_lt hn

theorem toInt64_nonneg {n : UInt64} (h : InRange n) : ¬ n.toInt64 < 0 := by
  rw [Int64.lt_iff_toInt_lt, toInt_toInt64 h]
  simp

theorem text_of_value {value : Option QString} (h : m.value key = ofText value)
    (hv : OptionalText value) : text m key = some value := by
  cases value with
  | none => simp [text, h, optional]
  | some s => simp [text, h, optional, validText_of_textWithin (hv s rfl)]

theorem integer_of_value {value : Option UInt64} (h : m.value key = ofInteger value)
    (hv : OptionalInteger value) : integer m key = some value := by
  cases value with
  | none => simp [integer, h, optional]
  | some n => simp [integer, h, optional, toInt64_nonneg (hv n rfl)]

theorem count_of_value {value : Option UInt32} (h : m.value key = ofCount value) :
    count m key = some value := by
  have hi : integer m key = some (value.map UInt32.toUInt64) := by
    refine integer_of_value ?_ ?_
    · cases value <;> exact h
    · intro n hn
      obtain ⟨k, -, rfl⟩ := Option.map_eq_some_iff.mp hn
      have := k.toNat_lt
      simp only [InRange, UInt32.toNat_toUInt64]
      omega
  cases value with
  | none => simp [count, hi]
  | some n =>
    have hn : ¬ (0xffffffff : UInt64) < n.toUInt64 := by
      have := n.toNat_lt
      rw [UInt64.lt_iff_toNat_lt]
      simp
      omega
    simp [count, hi, hn]

theorem number_of_value {value : Option Double} (h : m.value key = ofNumber value)
    (hv : OptionalNumber value) : number m key false = some value := by
  cases value with
  | none => simp [number, h, optional]
  | some d => simp [number, h, optional, checkNumber, hv d rfl]

theorem ratio_of_value {value : Option Double} (h : m.value key = ofNumber value)
    (hv : OptionalRatio value) : number m key true = some value := by
  cases value with
  | none => simp [number, h, optional]
  | some d =>
    obtain ⟨hf, h0, h1⟩ := hv d rfl
    simp [number, h, optional, checkNumber, hf, Double.lt, Rat.not_lt.mpr h0, Rat.not_lt.mpr h1]

theorem hostFromMap_of_carriedBy {host : SystemInfo.Host} (h : host.CarriedBy m)
    (hv : OptionalText host.hostName) : hostFromMap m = some host := by
  simp [hostFromMap, text_of_value h.hostName hv]

theorem osFromMap_of_carriedBy {os : SystemInfo.OperatingSystem} (h : os.CarriedBy m)
    (hv : os.Valid) : osFromMap m = some os := by
  simp [osFromMap, text_of_value h.osFamily hv.osFamily, text_of_value h.osId hv.osId,
    text_of_value h.osVersion hv.osVersion, text_of_value h.osPrettyName hv.osPrettyName]

theorem kernelFromMap_of_carriedBy {kernel : SystemInfo.Kernel} (h : kernel.CarriedBy m)
    (hv : kernel.Valid) : kernelFromMap m = some kernel := by
  simp [kernelFromMap, text_of_value h.kernelType hv.kernelType,
    text_of_value h.kernelVersion hv.kernelVersion]

theorem readIds_map_string (seen : List QString) {ids : List QString} (hnodup : ids.Nodup)
    (hseen : ∀ s ∈ ids, s ∉ seen) (htext : ∀ s ∈ ids, TextWithin 256 s) :
    readIds seen (ids.map .string) = some ids := by
  induction ids generalizing seen with
  | nil => rfl
  | cons s ids ih =>
    obtain ⟨hs, hnodup⟩ := List.nodup_cons.mp hnodup
    obtain ⟨hs', hseen⟩ := List.forall_mem_cons.mp hseen
    obtain ⟨ht, htext⟩ := List.forall_mem_cons.mp htext
    have hrest : ∀ t ∈ ids, t ∉ s :: seen := by
      intro t hm
      rw [List.mem_cons, not_or]
      exact ⟨fun e => hs (e ▸ hm), hseen t hm⟩
    simp [readIds, validText_of_textWithin ht, hs', ih (s :: seen) hnodup hrest htext]

theorem compatibleIds_of_value {value : Option (List QString)}
    (hv : ∀ ids ∈ value, UniqueNames 32 ids) :
    compatibleIds (optional (value.map fun ids => .array (ids.map .string))) = some value := by
  cases value with
  | none => rfl
  | some ids =>
    obtain ⟨hlen, hnodup, htext⟩ := hv ids rfl
    have := readIds_map_string [] hnodup (by simp) htext
    simp [compatibleIds, optional, this, hlen]

theorem hardwareFromMap_of_carriedBy {hardware : SystemInfo.Hardware} (h : hardware.CarriedBy m)
    (hv : hardware.Valid) : hardwareFromMap m = some hardware := by
  simp [hardwareFromMap, text_of_value h.manufacturer hv.manufacturer,
    text_of_value h.model hv.model, text_of_value h.boardRevision hv.boardRevision,
    h.compatibleIds, compatibleIds_of_value hv.compatibleIds]

theorem cpuFromMap_of_carriedBy {cpu : SystemInfo.Cpu} (h : cpu.CarriedBy m)
    (hv : cpu.Valid) : cpuFromMap m = some cpu := by
  simp [cpuFromMap, text_of_value h.architecture hv.architecture, text_of_value h.vendor hv.vendor,
    text_of_value h.model hv.model, count_of_value h.logicalCpuCount,
    count_of_value h.physicalCoreCount]

theorem memoryFromMap_of_carriedBy {memory : SystemInfo.Memory} (h : memory.CarriedBy m)
    (hv : OptionalInteger memory.totalBytes) : memoryFromMap m = some memory := by
  simp [memoryFromMap, integer_of_value h.totalBytes hv]

theorem checkInfo_of_valid {info : SystemInfo} (hv : info.Valid) : checkInfo info = some info := by
  have hcount : info.cpu.logicalCpuCount.any (· > 256) = false := by
    rw [Option.any_eq_false_iff_get]
    intro h
    have := hv.cpu.logicalCpuCount _ (Option.get_mem h)
    simpa [UInt32.lt_iff_toNat_lt] using this
  simp [checkInfo, hcount, hv.hasAnyValue]

theorem infoFromMap_of_carriedBy {info : SystemInfo} (h : info.CarriedBy root) (hv : info.Valid) :
    infoFromMap (.map root) = some info := by
  obtain ⟨host, ehost, hhost⟩ := h.host
  obtain ⟨os, eos, hos⟩ := h.os
  obtain ⟨kernel, ekernel, hkernel⟩ := h.kernel
  obtain ⟨hardware, ehardware, hhardware⟩ := h.hardware
  obtain ⟨cpu, ecpu, hcpu⟩ := h.cpu
  obtain ⟨memory, ememory, hmemory⟩ := h.memory
  simp [infoFromMap, ehost, eos, ekernel, ehardware, ecpu, ememory,
    hostFromMap_of_carriedBy hhost hv.hostName, osFromMap_of_carriedBy hos hv.os,
    kernelFromMap_of_carriedBy hkernel hv.kernel,
    hardwareFromMap_of_carriedBy hhardware hv.hardware, cpuFromMap_of_carriedBy hcpu hv.cpu,
    memoryFromMap_of_carriedBy hmemory hv.totalBytes, checkInfo_of_valid hv]

theorem uniqueName_of_textWithin {s : QString} {seen : List QString} (ht : TextWithin 256 s)
    (hs : s ∉ seen) : uniqueName (.string s) seen = some s := by
  simp [uniqueName, validText_of_textWithin ht, hs]

section Named

variable {α : Type} {nameOf : α → QString} {P : α → Prop} {R : α → QCborMap → Prop}
  {parse : QCborMap → List QString → Option (QString × α)}

/-- A parser recovers every entry with property `P` from each map that carries it. -/
def ParsesFrom (nameOf : α → QString) (P : α → Prop) (R : α → QCborMap → Prop)
    (parse : QCborMap → List QString → Option (QString × α)) : Prop :=
  ∀ {entry item seen}, R entry item → P entry → TextWithin 256 (nameOf entry) →
    nameOf entry ∉ seen → parse item seen = some (nameOf entry, entry)

theorem namedLoop_of_forall₂ (hparse : ParsesFrom nameOf P R parse) {entries : List α}
    {items : List QCborMap} (h : List.Forall₂ R entries items) (seen : List QString)
    (hnodup : (entries.map nameOf).Nodup) (hseen : ∀ s ∈ entries.map nameOf, s ∉ seen)
    (htext : ∀ s ∈ entries.map nameOf, TextWithin 256 s) (hP : ∀ entry ∈ entries, P entry) :
    namedLoop parse seen (items.map .map) = some entries := by
  induction h generalizing seen with
  | nil => rfl
  | @cons entry item entries items hentry _ ih =>
    rw [List.map_cons] at hnodup hseen htext
    obtain ⟨hn, hnodup⟩ := List.nodup_cons.mp hnodup
    obtain ⟨hs, hseen⟩ := List.forall_mem_cons.mp hseen
    obtain ⟨ht, htext⟩ := List.forall_mem_cons.mp htext
    obtain ⟨hp, hP⟩ := List.forall_mem_cons.mp hP
    have hrest : ∀ s ∈ entries.map nameOf, s ∉ nameOf entry :: seen := by
      intro s hm
      rw [List.mem_cons, not_or]
      exact ⟨fun e => hn (e ▸ hm), hseen s hm⟩
    simp [namedLoop, hparse hentry hp ht hs, ih (nameOf entry :: seen) hnodup hrest htext hP]

theorem named_of_carriedBy (hparse : ParsesFrom nameOf P R parse) {limit : Nat} {entries : List α}
    {raw : QCborValue} (h : ListCarriedBy R entries raw)
    (hnames : UniqueNames limit (entries.map nameOf)) (hP : ∀ entry ∈ entries, P entry) :
    named raw limit parse = some entries := by
  obtain ⟨rfl, rfl⟩ | ⟨items, rfl, hitems⟩ := h
  · rfl
  · have hlen : items.length ≤ limit := by
      rw [← hitems.length_eq]
      simpa using hnames.length_le
    have := namedLoop_of_forall₂ hparse hitems [] hnames.nodup (by simp) hnames.texts hP
    simp [named, hlen, this]

end Named

theorem logicalCpu_of_carriedBy : ParsesFrom SystemMetrics.LogicalCpu.name
    SystemMetrics.LogicalCpu.Valid SystemMetrics.LogicalCpu.CarriedBy logicalCpu := by
  intro entry item seen h hv ht hs
  simp [logicalCpu, h.name, uniqueName_of_textWithin ht hs,
    ratio_of_value h.usageRatio hv.usageRatio, integer_of_value h.frequencyHz hv.frequencyHz]

theorem storageVolume_of_carriedBy : ParsesFrom SystemMetrics.StorageVolume.mountPoint
    SystemMetrics.StorageVolume.Valid SystemMetrics.StorageVolume.CarriedBy storageVolume := by
  intro entry item seen h hv ht hs
  simp [storageVolume, h.mountPoint, h.deviceName, h.primary, h.readOnly,
    validText_of_textWithin ht, validText_of_textWithin hv.deviceName, hs,
    integer_of_value h.totalBytes hv.totalBytes,
    integer_of_value h.availableBytes hv.availableBytes]

theorem networkInterface_of_carriedBy : ParsesFrom SystemMetrics.NetworkInterface.name
    SystemMetrics.NetworkInterface.Valid SystemMetrics.NetworkInterface.CarriedBy
    networkInterface := by
  intro entry item seen h hv ht hs
  simp [networkInterface, h.name, uniqueName_of_textWithin ht hs,
    integer_of_value h.rxBytes hv.rxBytes, integer_of_value h.txBytes hv.txBytes,
    number_of_value h.rxBytesPerSecond hv.rxBytesPerSecond,
    number_of_value h.txBytesPerSecond hv.txBytesPerSecond]

theorem gpu_of_carriedBy : ParsesFrom SystemMetrics.Gpu.name SystemMetrics.Gpu.Valid
    SystemMetrics.Gpu.CarriedBy gpu := by
  intro entry item seen h hv ht hs
  simp [gpu, h.name, uniqueName_of_textWithin ht hs, ratio_of_value h.usageRatio hv.usageRatio,
    integer_of_value h.memoryTotalBytes hv.memoryTotalBytes,
    integer_of_value h.memoryUsedBytes hv.memoryUsedBytes,
    integer_of_value h.coreClockHz hv.coreClockHz,
    integer_of_value h.memoryClockHz hv.memoryClockHz,
    number_of_value h.temperatureCelsius hv.temperatureCelsius]

theorem metricsCpuFromMap_of_carriedBy {cpu : SystemMetrics.Cpu} (h : cpu.CarriedBy m)
    (hv : cpu.Valid) : metricsCpuFromMap m = some cpu := by
  simp [metricsCpuFromMap, ratio_of_value h.usageRatio hv.usageRatio,
    number_of_value h.temperatureCelsius hv.temperatureCelsius,
    named_of_carriedBy logicalCpu_of_carriedBy h.logicalCpus hv.names hv.logicalCpus]

theorem metricsMemoryFromMap_of_carriedBy {memory : SystemMetrics.Memory} (h : memory.CarriedBy m)
    (hv : memory.Valid) : metricsMemoryFromMap m = some memory := by
  simp [metricsMemoryFromMap, integer_of_value h.totalBytes hv.totalBytes,
    integer_of_value h.availableBytes hv.availableBytes,
    integer_of_value h.swapTotalBytes hv.swapTotalBytes,
    integer_of_value h.swapAvailableBytes hv.swapAvailableBytes]

theorem systemFromMap_of_carriedBy {system : SystemMetrics.System} (h : system.CarriedBy m)
    (hv : system.Valid) : systemFromMap m = some system := by
  simp [systemFromMap, number_of_value h.uptimeSeconds hv.uptimeSeconds,
    number_of_value h.loadAverage1m hv.loadAverage1m,
    number_of_value h.loadAverage5m hv.loadAverage5m,
    number_of_value h.loadAverage15m hv.loadAverage15m]

theorem exceeds_of_atMost {part whole : Option UInt64} (h : AtMost part whole) :
    exceeds part whole = false := by
  cases part with
  | none => rfl
  | some p =>
    cases whole with
    | none => rfl
    | some w => simpa [exceeds] using h p rfl w rfl

theorem checkMetrics_of_valid {metrics : SystemMetrics} (hv : metrics.Valid) :
    checkMetrics metrics = some metrics := by
  have hvolumes : metrics.storageVolumes.any
      (fun item => exceeds item.availableBytes item.totalBytes) = false :=
    List.any_eq_false.mpr fun item hi => by
      simp [exceeds_of_atMost (hv.storageVolumes item hi).available_le]
  have hgpus : metrics.gpus.any
      (fun item => exceeds item.memoryUsedBytes item.memoryTotalBytes) = false :=
    List.any_eq_false.mpr fun item hi => by simp [exceeds_of_atMost (hv.gpus item hi).used_le]
  simp [checkMetrics, exceeds_of_atMost hv.memory.available_le,
    exceeds_of_atMost hv.memory.swapAvailable_le, hvolumes, hgpus]

theorem metricsFromMap_of_carriedBy {metrics : SystemMetrics} (h : metrics.CarriedBy root)
    (hv : metrics.Valid) : metricsFromMap (.map root) = some metrics := by
  obtain ⟨cpu, ecpu, hcpu⟩ := h.cpu
  obtain ⟨memory, ememory, hmemory⟩ := h.memory
  obtain ⟨system, esystem, hsystem⟩ := h.system
  simp [metricsFromMap, ecpu, ememory, esystem, metricsCpuFromMap_of_carriedBy hcpu hv.cpu,
    metricsMemoryFromMap_of_carriedBy hmemory hv.memory,
    systemFromMap_of_carriedBy hsystem hv.system,
    named_of_carriedBy storageVolume_of_carriedBy h.storageVolumes hv.volumeNames hv.storageVolumes,
    named_of_carriedBy networkInterface_of_carriedBy h.networkInterfaces hv.interfaceNames
      hv.networkInterfaces,
    named_of_carriedBy gpu_of_carriedBy h.gpus hv.gpuNames hv.gpus, checkMetrics_of_valid hv]

theorem idOf_of_value {u : QUuid} (h : m.value key = .byteArray u.toRfc4122) (hu : u ≠ .null) :
    idOf m key = some u := by
  have hlen : u.toRfc4122.length = 16 := u.length_eq
  simp [idOf, h, hlen, QUuid.fromRfc4122_toRfc4122, QUuid.isNull, hu]

theorem readInterval_of_within {interval : Int} (h : IntervalWithin interval) :
    readInterval (.integer (Int64.ofInt interval)) = some interval := by
  obtain ⟨h1, h5⟩ := h
  have hi : (Int64.ofInt interval).toInt = interval :=
    Int64.toInt_ofInt_of_le (by omega) (by omega)
  have hlo : ¬ Int64.ofInt interval < 1 := by simpa [Int64.lt_iff_toInt_lt, hi] using h1
  have hhi : ¬ 5 < Int64.ofInt interval := by simpa [Int64.lt_iff_toInt_lt, hi] using h5
  simp [readInterval, hlo, hhi, hi]

theorem readReason_of_value {reason : QString} (h : (toUtf8 reason).length ≤ 64) :
    readReason (ofText (if reason = "" then none else some reason)) = some reason := by
  split
  · next hr =>
    subst hr
    rfl
  · simp [readReason, optional, h]

/-- The decoder's dispatch, on a root that carries the envelope. -/
theorem decodeRoot_of_envelope {type : QString} {device inst : QUuid}
    (h : EnvelopeCarriedBy type device inst root) (hd : device ≠ .null) (hi : inst ≠ .null) :
    decodeRoot root =
      if type = "hello" then decodeHello root device inst
      else if type = "registration_result" then decodeRegistrationResult root device inst
      else if type = "snapshot" then decodeSnapshot root device inst
      else reject "unsupported_type" := by
  simp [decodeRoot, h.version, h.type, idOf_of_value h.deviceId hd, idOf_of_value h.instanceId hi]

theorem decodeRoot_of_carriedBy {message : TelemetryMessage} (h : message.CarriedBy root)
    (hv : message.Valid) : decodeRoot root = accept message := by
  cases message with
  | hello value =>
    obtain ⟨m, em, hm⟩ := h.systemInfo
    rw [decodeRoot_of_envelope h.toEnvelopeCarriedBy hv.deviceId hv.instanceId, if_pos rfl]
    simp [decodeHello, h.displayName, readDisplayName, validText_of_textWithin hv.displayName,
      h.interval, readInterval_of_within hv.interval, em,
      infoFromMap_of_carriedBy hm hv.systemInfo]
  | registrationResult value =>
    rw [decodeRoot_of_envelope h.toEnvelopeCarriedBy hv.deviceId hv.instanceId,
      if_neg (by decide), if_pos rfl]
    simp [decodeRegistrationResult, h.accepted, h.reason, readReason_of_value hv.reason]
  | snapshot value =>
    obtain ⟨m, em, hm⟩ := h.systemInfo
    have hmetrics : readMetrics (root.value "metrics") = some value.metrics := by
      have hc := h.metrics
      have hmv := hv.metrics
      cases hmet : value.metrics with
      | none =>
        rw [hmet] at hc
        simp [hc, readMetrics]
      | some metrics =>
        rw [hmet] at hc hmv
        obtain ⟨n, en, hn⟩ := hc
        simp [en, readMetrics, metricsFromMap_of_carriedBy hn (hmv metrics rfl)]
    rw [decodeRoot_of_envelope h.toEnvelopeCarriedBy hv.deviceId hv.instanceId,
      if_neg (by decide), if_neg (by decide), if_pos rfl]
    simp [decodeSnapshot, h.interval, readInterval_of_within hv.interval, h.sequence, readSequence,
      toInt64_nonneg hv.sequence, em, infoFromMap_of_carriedBy hm hv.systemInfo, hmetrics]

end Codec

end RpiDashboard.Protocol
