import RpiDashboard.Protocol.DecoderLaws
import RpiDashboard.Protocol.WireFormatLaws

/-! The decoder takes exactly the valid messages: what it returns for a root that carries a
message is that message. -/

namespace RpiDashboard.Protocol.Codec

open Numeric Qt

section Fields

variable {m : QCborMap} {key : QString}

theorem eq_of_text {value read : Option QString} (h : m.value key = ofText value)
    (hr : text m key = some read) : read = value := by
  cases value <;> simp_all [text, optional]

theorem eq_of_integer {value read : Option UInt64} (h : m.value key = ofInteger value)
    (hr : integer m key = some read) : read = value := by
  cases value <;> simp_all [integer, optional]

theorem eq_of_count {value read : Option UInt32} (h : m.value key = ofCount value)
    (hr : count m key = some read) : read = value := by
  rw [count_of_value h] at hr
  exact (Option.some.inj hr).symm

theorem eq_of_number {value read : Option Double} {ratio : Bool}
    (h : m.value key = ofNumber value) (hr : number m key ratio = some read) : read = value := by
  cases value with
  | none => simp_all [number, optional]
  | some d =>
    rw [number, h] at hr
    exact (checkNumber_sound hr).1

end Fields

section Sections

variable {m root : QCborMap}

theorem eq_of_host {host read : SystemInfo.Host} (h : host.CarriedBy m)
    (hr : hostFromMap m = some read) : read = host := by
  simp only [hostFromMap, Option.bind_eq_bind, Option.bind_eq_some_iff, Option.pure_def,
    Option.some.injEq] at hr
  obtain ⟨_, h₁, rfl⟩ := hr
  rw [eq_of_text h.hostName h₁]

theorem eq_of_os {os read : SystemInfo.OperatingSystem} (h : os.CarriedBy m)
    (hr : osFromMap m = some read) : read = os := by
  simp only [osFromMap, Option.bind_eq_bind, Option.bind_eq_some_iff, Option.pure_def,
    Option.some.injEq] at hr
  obtain ⟨_, h₁, _, h₂, _, h₃, _, h₄, rfl⟩ := hr
  rw [eq_of_text h.osFamily h₁, eq_of_text h.osId h₂, eq_of_text h.osVersion h₃,
    eq_of_text h.osPrettyName h₄]

theorem eq_of_kernel {kernel read : SystemInfo.Kernel} (h : kernel.CarriedBy m)
    (hr : kernelFromMap m = some read) : read = kernel := by
  simp only [kernelFromMap, Option.bind_eq_bind, Option.bind_eq_some_iff, Option.pure_def,
    Option.some.injEq] at hr
  obtain ⟨_, h₁, _, h₂, rfl⟩ := hr
  rw [eq_of_text h.kernelType h₁, eq_of_text h.kernelVersion h₂]

theorem eq_of_compatibleIds {value read : Option (List QString)}
    (hr : compatibleIds (optional (value.map fun ids => .array (ids.map .string))) = some read) :
    read = value := by
  cases value with
  | none =>
    cases hr
    rfl
  | some ids =>
    rw [Option.map_some, optional, Option.getD_some, compatibleIds] at hr
    split at hr
    · cases hr
    · obtain ⟨read, hread, rfl⟩ := Option.map_eq_some_iff.mp hr
      rw [readIds_strings hread]

theorem eq_of_hardware {hardware read : SystemInfo.Hardware} (h : hardware.CarriedBy m)
    (hr : hardwareFromMap m = some read) : read = hardware := by
  simp only [hardwareFromMap, Option.bind_eq_bind, Option.bind_eq_some_iff, Option.pure_def,
    Option.some.injEq] at hr
  obtain ⟨_, h₁, _, h₂, _, h₃, _, h₄, rfl⟩ := hr
  rw [h.compatibleIds] at h₄
  rw [eq_of_text h.manufacturer h₁, eq_of_text h.model h₂, eq_of_text h.boardRevision h₃,
    eq_of_compatibleIds h₄]

theorem eq_of_cpu {cpu read : SystemInfo.Cpu} (h : cpu.CarriedBy m)
    (hr : cpuFromMap m = some read) : read = cpu := by
  simp only [cpuFromMap, Option.bind_eq_bind, Option.bind_eq_some_iff, Option.pure_def,
    Option.some.injEq] at hr
  obtain ⟨_, h₁, _, h₂, _, h₃, _, h₄, _, h₅, rfl⟩ := hr
  rw [eq_of_text h.architecture h₁, eq_of_text h.vendor h₂, eq_of_text h.model h₃,
    eq_of_count h.logicalCpuCount h₄, eq_of_count h.physicalCoreCount h₅]

theorem eq_of_memory {memory read : SystemInfo.Memory} (h : memory.CarriedBy m)
    (hr : memoryFromMap m = some read) : read = memory := by
  simp only [memoryFromMap, Option.bind_eq_bind, Option.bind_eq_some_iff, Option.pure_def,
    Option.some.injEq] at hr
  obtain ⟨_, h₁, rfl⟩ := hr
  rw [eq_of_integer h.totalBytes h₁]

theorem eq_of_section {P : QCborMap → Prop} {key : QString} {s : QCborMap}
    (h : SectionCarriedBy P root key) (hs : sectionOf root key = some s) : P s := by
  obtain ⟨m, hm, hP⟩ := h
  obtain rfl : m = s := Option.some.inj (hm.symm.trans hs)
  exact hP

theorem eq_of_info {info read : SystemInfo} (h : info.CarriedBy root)
    (hr : infoFromMap (.map root) = some read) : read = info := by
  simp only [infoFromMap, Option.bind_eq_bind, Option.bind_eq_some_iff] at hr
  obtain ⟨_, e₁, _, e₂, _, e₃, _, e₄, _, e₅, _, e₆, _, h₁, _, h₂, _, h₃, _, h₄, _, h₅, _, h₆,
    hcheck⟩ := hr
  rw [(checkInfo_sound hcheck).1, eq_of_host (eq_of_section h.host e₁) h₁,
    eq_of_os (eq_of_section h.os e₂) h₂, eq_of_kernel (eq_of_section h.kernel e₃) h₃,
    eq_of_hardware (eq_of_section h.hardware e₄) h₄, eq_of_cpu (eq_of_section h.cpu e₅) h₅,
    eq_of_memory (eq_of_section h.memory e₆) h₆]

end Sections

section Lists

variable {α : Type} {R : α → QCborMap → Prop}
  {parse : QCborMap → List QString → Option (QString × α)}

/-- What a parser of list items returns is the entry that the map carries. -/
def ParsesOnly (R : α → QCborMap → Prop)
    (parse : QCborMap → List QString → Option (QString × α)) : Prop :=
  ∀ entry item seen name read, R entry item → parse item seen = some (name, read) → read = entry

theorem eq_of_namedLoop (hparse : ParsesOnly R parse) {entries read : List α}
    {items : List QCborMap} (h : List.Forall₂ R entries items) {seen : List QString}
    (hr : namedLoop parse seen (items.map .map) = some read) : read = entries := by
  induction h generalizing seen read with
  | nil =>
    cases hr
    rfl
  | cons hentry _ ih =>
    simp only [List.map_cons, namedLoop, Option.bind_eq_bind, Option.bind_eq_some_iff,
      Option.pure_def, Option.some.injEq] at hr
    obtain ⟨⟨name, first⟩, hfirst, rest, hrest, rfl⟩ := hr
    rw [hparse _ _ _ _ _ hentry hfirst, ih hrest]

theorem eq_of_named (hparse : ParsesOnly R parse) {entries read : List α} {raw : QCborValue}
    {limit : Nat} (h : ListCarriedBy R entries raw) (hr : named raw limit parse = some read) :
    read = entries := by
  obtain ⟨rfl, rfl⟩ | ⟨items, rfl, hitems⟩ := h
  · cases hr
    rfl
  · rw [named] at hr
    split at hr
    · cases hr
    · exact eq_of_namedLoop hparse hitems hr

theorem eq_of_uniqueName {s name : QString} {seen : List QString}
    (h : uniqueName (.string s) seen = some name) : name = s := by
  have hvalue := uniqueName_value h
  cases hvalue
  rfl

theorem eq_of_logicalCpu : ParsesOnly SystemMetrics.LogicalCpu.CarriedBy logicalCpu := by
  intro entry item seen name read h hr
  simp only [logicalCpu, Option.bind_eq_bind, Option.bind_eq_some_iff, Option.pure_def,
    Option.some.injEq, Prod.mk.injEq] at hr
  obtain ⟨_, h₁, _, h₂, _, h₃, rfl, rfl⟩ := hr
  rw [h.name] at h₁
  rw [eq_of_uniqueName h₁, eq_of_number h.usageRatio h₂, eq_of_integer h.frequencyHz h₃]

theorem eq_of_storageVolume : ParsesOnly SystemMetrics.StorageVolume.CarriedBy storageVolume := by
  intro entry item seen name read h hr
  rw [storageVolume, h.mountPoint, h.deviceName, h.primary, h.readOnly] at hr
  dsimp only at hr
  split at hr
  · cases hr
  · simp only [Option.bind_eq_bind, Option.bind_eq_some_iff, Option.pure_def,
      Option.some.injEq, Prod.mk.injEq] at hr
    obtain ⟨_, h₁, _, h₂, rfl, rfl⟩ := hr
    rw [eq_of_integer h.totalBytes h₁, eq_of_integer h.availableBytes h₂]

theorem eq_of_networkInterface :
    ParsesOnly SystemMetrics.NetworkInterface.CarriedBy networkInterface := by
  intro entry item seen name read h hr
  simp only [networkInterface, Option.bind_eq_bind, Option.bind_eq_some_iff, Option.pure_def,
    Option.some.injEq, Prod.mk.injEq] at hr
  obtain ⟨_, h₁, _, h₂, _, h₃, _, h₄, _, h₅, rfl, rfl⟩ := hr
  rw [h.name] at h₁
  rw [eq_of_uniqueName h₁, eq_of_integer h.rxBytes h₂, eq_of_integer h.txBytes h₃,
    eq_of_number h.rxBytesPerSecond h₄, eq_of_number h.txBytesPerSecond h₅]

theorem eq_of_gpu : ParsesOnly SystemMetrics.Gpu.CarriedBy gpu := by
  intro entry item seen name read h hr
  simp only [gpu, Option.bind_eq_bind, Option.bind_eq_some_iff, Option.pure_def,
    Option.some.injEq, Prod.mk.injEq] at hr
  obtain ⟨_, h₁, _, h₂, _, h₃, _, h₄, _, h₅, _, h₆, _, h₇, rfl, rfl⟩ := hr
  rw [h.name] at h₁
  rw [eq_of_uniqueName h₁, eq_of_number h.usageRatio h₂, eq_of_integer h.memoryTotalBytes h₃,
    eq_of_integer h.memoryUsedBytes h₄, eq_of_integer h.coreClockHz h₅,
    eq_of_integer h.memoryClockHz h₆, eq_of_number h.temperatureCelsius h₇]

end Lists

section Metrics

variable {m root : QCborMap}

theorem eq_of_metricsCpu {cpu read : SystemMetrics.Cpu} (h : cpu.CarriedBy m)
    (hr : metricsCpuFromMap m = some read) : read = cpu := by
  simp only [metricsCpuFromMap, Option.bind_eq_bind, Option.bind_eq_some_iff, Option.pure_def,
    Option.some.injEq] at hr
  obtain ⟨_, h₁, _, h₂, _, h₃, rfl⟩ := hr
  rw [eq_of_number h.usageRatio h₁, eq_of_number h.temperatureCelsius h₂,
    eq_of_named eq_of_logicalCpu h.logicalCpus h₃]

theorem eq_of_metricsMemory {memory read : SystemMetrics.Memory} (h : memory.CarriedBy m)
    (hr : metricsMemoryFromMap m = some read) : read = memory := by
  simp only [metricsMemoryFromMap, Option.bind_eq_bind, Option.bind_eq_some_iff, Option.pure_def,
    Option.some.injEq] at hr
  obtain ⟨_, h₁, _, h₂, _, h₃, _, h₄, rfl⟩ := hr
  rw [eq_of_integer h.totalBytes h₁, eq_of_integer h.availableBytes h₂,
    eq_of_integer h.swapTotalBytes h₃, eq_of_integer h.swapAvailableBytes h₄]

theorem eq_of_system {system read : SystemMetrics.System} (h : system.CarriedBy m)
    (hr : systemFromMap m = some read) : read = system := by
  simp only [systemFromMap, Option.bind_eq_bind, Option.bind_eq_some_iff, Option.pure_def,
    Option.some.injEq] at hr
  obtain ⟨_, h₁, _, h₂, _, h₃, _, h₄, rfl⟩ := hr
  rw [eq_of_number h.uptimeSeconds h₁, eq_of_number h.loadAverage1m h₂,
    eq_of_number h.loadAverage5m h₃, eq_of_number h.loadAverage15m h₄]

theorem eq_of_metrics {metrics read : SystemMetrics} (h : metrics.CarriedBy root)
    (hr : metricsFromMap (.map root) = some read) : read = metrics := by
  simp only [metricsFromMap, Option.bind_eq_bind, Option.bind_eq_some_iff] at hr
  obtain ⟨_, e₁, _, e₂, _, e₃, _, h₁, _, h₂, _, h₃, _, h₄, _, h₅, _, h₆, hcheck⟩ := hr
  rw [(checkMetrics_sound hcheck).1, eq_of_metricsCpu (eq_of_section h.cpu e₁) h₁,
    eq_of_metricsMemory (eq_of_section h.memory e₂) h₂,
    eq_of_system (eq_of_section h.system e₃) h₃,
    eq_of_named eq_of_storageVolume h.storageVolumes h₄,
    eq_of_named eq_of_networkInterface h.networkInterfaces h₅, eq_of_named eq_of_gpu h.gpus h₆]

end Metrics

section Messages

variable {root : QCborMap} {device inst : QUuid} {message : TelemetryMessage}

theorem eq_of_idOf {key : QString} {u read : QUuid} (h : root.value key = .byteArray u.toRfc4122)
    (hr : idOf root key = some read) : read = u := by
  have hlen : u.toRfc4122.length = 16 := u.length_eq
  simp only [idOf, h, hlen, QUuid.fromRfc4122_toRfc4122] at hr
  by_cases hu : u.isNull
  · simp [hu] at hr
  · simpa [hu] using hr.symm

theorem eq_of_interval {interval read : Int} (h : IntervalWithin interval)
    (hr : readInterval (.integer (Int64.ofInt interval)) = some read) : read = interval := by
  rw [readInterval_of_within h] at hr
  exact (Option.some.inj hr).symm

theorem eq_of_displayName {s read : QString} (hr : readDisplayName (.string s) = some read) :
    read = s := by
  rw [readDisplayName] at hr
  split at hr
  · exact (Option.some.inj hr).symm
  · cases hr

theorem eq_of_sequence {n read : UInt64} (hr : readSequence (.integer n.toInt64) = some read) :
    read = n := by
  rw [readSequence] at hr
  split at hr
  · cases hr
  · simpa using hr.symm

theorem eq_of_readMetrics {value : DeviceSnapshot} {read : Option SystemMetrics}
    (h : value.CarriedBy root) (hr : readMetrics (root.value "metrics") = some read) :
    read = value.metrics := by
  have hc := h.metrics
  cases hmetrics : value.metrics with
  | none =>
    rw [hmetrics] at hc
    rw [hc] at hr
    exact (Option.some.inj hr).symm
  | some metrics =>
    rw [hmetrics] at hc
    obtain ⟨m, hm, hcarried⟩ := hc
    rw [hm] at hr
    obtain ⟨got, hgot, rfl⟩ := Option.map_eq_some_iff.mp hr
    rw [eq_of_metrics hcarried hgot]

/-- A root that is accepted has identifiers, and its type tells which decoder takes it. -/
theorem decodeRoot_cases {type : QString} (h : EnvelopeCarriedBy type device inst root)
    (hx : (decodeRoot root).message = some message) :
    decodeRoot root =
      if type = "hello" then decodeHello root device inst
      else if type = "registration_result" then decodeRegistrationResult root device inst
      else if type = "snapshot" then decodeSnapshot root device inst
      else reject "unsupported_type" := by
  simp only [decodeRoot, h.version, h.type, ne_eq, not_true_eq_false, if_false] at hx ⊢
  cases hd : idOf root "device_id" with
  | none => simp [hd, reject] at hx
  | some d =>
    cases hi : idOf root "instance_id" with
    | none => simp [hd, hi, reject] at hx
    | some i => rw [eq_of_idOf h.deviceId hd, eq_of_idOf h.instanceId hi]

theorem eq_of_hello {value : Hello} (h : value.CarriedBy root)
    (hinterval : IntervalWithin value.intervalSeconds)
    (hx : (decodeRoot root).message = some message) : message = .hello value := by
  obtain ⟨m, hm, hinfo⟩ := h.systemInfo
  rw [decodeRoot_cases h.toEnvelopeCarriedBy hx, if_pos rfl, decodeHello, h.displayName, h.interval,
    hm] at hx
  split at hx
  · next name interval info hname hint hread =>
    cases hx
    rw [eq_of_displayName hname, eq_of_interval hinterval hint, eq_of_info hinfo hread]
  · cases hx

theorem eq_of_snapshot {value : DeviceSnapshot} (h : value.CarriedBy root)
    (hinterval : IntervalWithin value.intervalSeconds)
    (hx : (decodeRoot root).message = some message) : message = .snapshot value := by
  obtain ⟨m, hm, hinfo⟩ := h.systemInfo
  rw [decodeRoot_cases h.toEnvelopeCarriedBy hx, if_neg (by decide), if_neg (by decide),
    if_pos rfl, decodeSnapshot, h.interval, h.sequence, hm] at hx
  split at hx
  · next interval sequence info hint hsequence hread =>
    split at hx
    · next metrics hmetrics =>
      cases hx
      rw [eq_of_interval hinterval hint, eq_of_sequence hsequence, eq_of_info hinfo hread,
        eq_of_readMetrics h hmetrics]
    · cases hx
  · cases hx

end Messages

end RpiDashboard.Protocol.Codec
