import RpiDashboard.Protocol.RoundTripLaws
import RpiDashboard.Qt.Extension
import RpiDashboard.Qt.Reference

/-! The decoder reads messages of newer senders: what it returns does not depend on
entries it does not know, nor on the order of the entries of any map. -/

namespace RpiDashboard.Protocol

open Numeric Qt Codec

namespace Codec

def plainFields (keys : List QString) : Layout := .fields (keys.map fun key => (key, .plain))

def hostLayout : Layout := plainFields ["host_name"]

def osLayout : Layout := plainFields ["os_family", "os_id", "os_version", "os_pretty_name"]

def kernelLayout : Layout := plainFields ["kernel_type", "kernel_version"]

def hardwareLayout : Layout :=
  plainFields ["manufacturer", "model", "board_revision", "compatible_ids"]

def cpuLayout : Layout :=
  plainFields ["architecture", "vendor", "model", "logical_cpu_count", "physical_core_count"]

def memoryLayout : Layout := plainFields ["total_bytes"]

def infoLayout : Layout :=
  .fields [("host", hostLayout), ("os", osLayout), ("kernel", kernelLayout),
    ("hardware", hardwareLayout), ("cpu", cpuLayout), ("memory", memoryLayout)]

def logicalCpuLayout : Layout := plainFields ["name", "usage_ratio", "frequency_hz"]

def metricsCpuLayout : Layout :=
  .fields [("usage_ratio", .plain), ("temperature_celsius", .plain),
    ("logical_cpus", .items logicalCpuLayout)]

def metricsMemoryLayout : Layout :=
  plainFields ["total_bytes", "available_bytes", "swap_total_bytes", "swap_available_bytes"]

def systemLayout : Layout :=
  plainFields ["uptime_seconds", "load_average_1m", "load_average_5m", "load_average_15m"]

def storageVolumeLayout : Layout :=
  plainFields ["mount_point", "device_name", "primary", "read_only", "total_bytes",
    "available_bytes"]

def networkInterfaceLayout : Layout :=
  plainFields ["name", "rx_bytes", "tx_bytes", "rx_bytes_per_second", "tx_bytes_per_second"]

def gpuLayout : Layout :=
  plainFields ["name", "usage_ratio", "memory_total_bytes", "memory_used_bytes", "core_clock_hz",
    "memory_clock_hz", "temperature_celsius"]

def metricsLayout : Layout :=
  .fields [("cpu", metricsCpuLayout), ("memory", metricsMemoryLayout), ("system", systemLayout),
    ("storage_volumes", .items storageVolumeLayout),
    ("network_interfaces", .items networkInterfaceLayout), ("gpus", .items gpuLayout)]

/-- The keys of the root that `decodeMessage` knows, of all three kinds of message. -/
def messageLayout : Layout :=
  .fields [("version", .plain), ("type", .plain), ("device_id", .plain), ("instance_id", .plain),
    ("display_name", .plain), ("interval_s", .plain), ("system_info", infoLayout),
    ("accepted", .plain), ("reason", .plain), ("sequence", .plain), ("metrics", metricsLayout)]

section Readers

variable {layout below : Layout} {v v' : QCborValue} {m m' : QCborMap}

theorem readInterval_extends (h : Extends layout v v') : readInterval v' = readInterval v := by
  cases h <;> rfl

theorem readDisplayName_extends (h : Extends layout v v') :
    readDisplayName v' = readDisplayName v := by
  cases h <;> rfl

theorem readSequence_extends (h : Extends layout v v') : readSequence v' = readSequence v := by
  cases h <;> rfl

theorem readReason_extends (h : Extends layout v v') : readReason v' = readReason v := by
  cases h <;> rfl

theorem uniqueName_extends (h : Extends layout v v') (seen : List QString) :
    uniqueName v' seen = uniqueName v seen := by
  cases h <;> rfl

variable (h : Extension layout (.map m) (.map m')) (key : QString)
  (hf : layout.field key = some below)

include h hf

theorem text_extension : text m' key = text m key := by
  have hv := (h.value key hf).of
  unfold text
  generalize m.value key = v at hv ⊢
  generalize m'.value key = v' at hv ⊢
  cases hv <;> rfl

theorem integer_extension : integer m' key = integer m key := by
  have hv := (h.value key hf).of
  unfold integer
  generalize m.value key = v at hv ⊢
  generalize m'.value key = v' at hv ⊢
  cases hv <;> rfl

theorem count_extension : count m' key = count m key := by
  rw [count, integer_extension h key hf, count]

theorem number_extension (ratio : Bool) : number m' key ratio = number m key ratio := by
  have hv := (h.value key hf).of
  unfold number
  generalize m.value key = v at hv ⊢
  generalize m'.value key = v' at hv ⊢
  cases hv <;> rfl

theorem idOf_extension : idOf m' key = idOf m key := by
  have hv := (h.value key hf).of
  unfold idOf
  generalize m.value key = v at hv ⊢
  generalize m'.value key = v' at hv ⊢
  cases hv <;> rfl

theorem sectionOf_extension :
    Option.Rel (fun s s' => Extension below (.map s) (.map s')) (sectionOf m key)
      (sectionOf m' key) := by
  obtain ⟨hu, hv⟩ := h.value key hf
  unfold sectionOf
  generalize m.value key = v at hu hv ⊢
  generalize m'.value key = v' at hv ⊢
  cases hv with
  | refl =>
    cases v with
    | undefined => exact .some ⟨⟨QCborMap.distinct_nil, trivial⟩, .refl below _⟩
    | map s => exact .some ⟨hu, .refl below _⟩
    | _ => exact .none
  | map hm => exact .some ⟨hu, .map hm⟩
  | array | tag => exact .none

end Readers

theorem readIds_extends {layout : Layout} {xs ys : List QCborValue}
    (h : List.Forall₂ (Extends layout) xs ys) (seen : List QString) :
    readIds seen ys = readIds seen xs := by
  induction h generalizing seen with
  | nil => rfl
  | @cons x y xs ys hx hxs ih =>
    cases hx with
    | refl => cases x <;> simp only [readIds, ih]
    | array | map | tag => rfl

theorem compatibleIds_extends {layout : Layout} {v v' : QCborValue} (h : Extends layout v v') :
    compatibleIds v' = compatibleIds v := by
  cases h with
  | refl => rfl
  | array h => simp only [compatibleIds, readIds_extends h.forall₂, h.forall₂.length_eq]
  | map | tag => rfl

theorem bind_eq_of_rel {α β : Type} {R : α → α → Prop} {a a' : Option α} {f g : α → Option β}
    (h : Option.Rel R a a') (hfg : ∀ x x', R x x' → g x' = f x) : a'.bind g = a.bind f := by
  cases h with
  | some hx => exact hfg _ _ hx
  | none => rfl

section Info

variable {m m' : QCborMap}

theorem hostFromMap_extension (h : Extension hostLayout (.map m) (.map m')) :
    hostFromMap m' = hostFromMap m := by
  simp only [hostFromMap, text_extension h "host_name" rfl]

theorem osFromMap_extension (h : Extension osLayout (.map m) (.map m')) :
    osFromMap m' = osFromMap m := by
  simp only [osFromMap, text_extension h "os_family" rfl, text_extension h "os_id" rfl,
    text_extension h "os_version" rfl, text_extension h "os_pretty_name" rfl]

theorem kernelFromMap_extension (h : Extension kernelLayout (.map m) (.map m')) :
    kernelFromMap m' = kernelFromMap m := by
  simp only [kernelFromMap, text_extension h "kernel_type" rfl,
    text_extension h "kernel_version" rfl]

theorem hardwareFromMap_extension (h : Extension hardwareLayout (.map m) (.map m')) :
    hardwareFromMap m' = hardwareFromMap m := by
  have hids : compatibleIds (m'.value "compatible_ids") = compatibleIds (m.value "compatible_ids") :=
    compatibleIds_extends (h.value "compatible_ids" rfl).of
  simp only [hardwareFromMap, text_extension h "manufacturer" rfl, text_extension h "model" rfl,
    text_extension h "board_revision" rfl, hids]

theorem cpuFromMap_extension (h : Extension cpuLayout (.map m) (.map m')) :
    cpuFromMap m' = cpuFromMap m := by
  simp only [cpuFromMap, text_extension h "architecture" rfl, text_extension h "vendor" rfl,
    text_extension h "model" rfl, count_extension h "logical_cpu_count" rfl,
    count_extension h "physical_core_count" rfl]

theorem memoryFromMap_extension (h : Extension memoryLayout (.map m) (.map m')) :
    memoryFromMap m' = memoryFromMap m := by
  simp only [memoryFromMap, integer_extension h "total_bytes" rfl]

theorem infoFromMap_extension {v v' : QCborValue} (h : Extension infoLayout v v') :
    infoFromMap v' = infoFromMap v := by
  cases h.of with
  | refl => rfl
  | map hm =>
    have hm := Extension.mk h.unique (.map hm)
    refine bind_eq_of_rel (sectionOf_extension hm "host" rfl) fun host host' hhost => ?_
    refine bind_eq_of_rel (sectionOf_extension hm "os" rfl) fun os os' hos => ?_
    refine bind_eq_of_rel (sectionOf_extension hm "kernel" rfl) fun kernel kernel' hkernel => ?_
    refine bind_eq_of_rel (sectionOf_extension hm "hardware" rfl) fun hw hw' hhw => ?_
    refine bind_eq_of_rel (sectionOf_extension hm "cpu" rfl) fun cpu cpu' hcpu => ?_
    refine bind_eq_of_rel (sectionOf_extension hm "memory" rfl) fun memory memory' hmemory => ?_
    rw [hostFromMap_extension hhost, osFromMap_extension hos, kernelFromMap_extension hkernel,
      hardwareFromMap_extension hhw, cpuFromMap_extension hcpu, memoryFromMap_extension hmemory]
  | array | tag => rfl

end Info

section Lists

variable {α : Type} {parse : QCborMap → List QString → Option (QString × α)} {layout : Layout}
  (hparse : ∀ item item' seen, Extension layout (.map item) (.map item') →
    parse item' seen = parse item seen)

include hparse

theorem namedLoop_extension {xs ys : List QCborValue}
    (h : List.Forall₂ (Extension layout) xs ys) (seen : List QString) :
    namedLoop parse seen ys = namedLoop parse seen xs := by
  induction h generalizing seen with
  | nil => rfl
  | @cons x y xs ys hx hxs ih =>
    cases hx.of with
    | refl => cases x <;> simp only [namedLoop, ih]
    | map hm => simp only [namedLoop, hparse _ _ seen ⟨hx.unique, .map hm⟩, ih]
    | array | tag => rfl

theorem named_extension {v v' : QCborValue} (h : Extension (.items layout) v v') (limit : Nat) :
    named v' limit parse = named v limit parse := by
  cases hv : v with
  | array xs =>
    obtain ⟨ys, rfl, hys⟩ := (hv ▸ h).of_array
    simp only [named, namedLoop_extension hparse hys, hys.length_eq]
  | _ =>
    subst hv
    cases h.of <;> rfl

end Lists

section Metrics

variable {m m' : QCborMap}

theorem logicalCpu_extension (h : Extension logicalCpuLayout (.map m) (.map m'))
    (seen : List QString) : logicalCpu m' seen = logicalCpu m seen := by
  simp only [logicalCpu, uniqueName_extends (h.value "name" rfl).of,
    number_extension h "usage_ratio" rfl, integer_extension h "frequency_hz" rfl]

theorem networkInterface_extension (h : Extension networkInterfaceLayout (.map m) (.map m'))
    (seen : List QString) : networkInterface m' seen = networkInterface m seen := by
  simp only [networkInterface, uniqueName_extends (h.value "name" rfl).of,
    integer_extension h "rx_bytes" rfl, integer_extension h "tx_bytes" rfl,
    number_extension h "rx_bytes_per_second" rfl, number_extension h "tx_bytes_per_second" rfl]

theorem gpu_extension (h : Extension gpuLayout (.map m) (.map m')) (seen : List QString) :
    gpu m' seen = gpu m seen := by
  simp only [gpu, uniqueName_extends (h.value "name" rfl).of,
    number_extension h "usage_ratio" rfl, integer_extension h "memory_total_bytes" rfl,
    integer_extension h "memory_used_bytes" rfl, integer_extension h "core_clock_hz" rfl,
    integer_extension h "memory_clock_hz" rfl, number_extension h "temperature_celsius" rfl]

theorem storageVolume_extension (h : Extension storageVolumeLayout (.map m) (.map m'))
    (seen : List QString) : storageVolume m' seen = storageVolume m seen := by
  have hmount := (h.value "mount_point" rfl).of.string_iff
  have hdevice := (h.value "device_name" rfl).of.string_iff
  have hprimary := (h.value "primary" rfl).of.boolean_iff
  have hreadOnly := (h.value "read_only" rfl).of.boolean_iff
  simp only [storageVolume, integer_extension h "total_bytes" rfl,
    integer_extension h "available_bytes" rfl]
  split
  next mount device primary readOnly h₁ h₂ h₃ h₄ =>
    rw [(hmount mount).mp h₁, (hdevice device).mp h₂, (hprimary primary).mp h₃,
      (hreadOnly readOnly).mp h₄]
  next hnone =>
    split
    next mount device primary readOnly h₁ h₂ h₃ h₄ =>
      exact absurd ((hreadOnly readOnly).mpr h₄) (hnone mount device primary readOnly
        ((hmount mount).mpr h₁) ((hdevice device).mpr h₂) ((hprimary primary).mpr h₃))
    next => rfl

theorem metricsCpuFromMap_extension (h : Extension metricsCpuLayout (.map m) (.map m')) :
    metricsCpuFromMap m' = metricsCpuFromMap m := by
  have hlist := named_extension (fun _ _ seen hitem => logicalCpu_extension hitem seen)
    (h.value "logical_cpus" rfl) 256
  simp only [metricsCpuFromMap, number_extension h "usage_ratio" rfl,
    number_extension h "temperature_celsius" rfl, hlist]

theorem metricsMemoryFromMap_extension (h : Extension metricsMemoryLayout (.map m) (.map m')) :
    metricsMemoryFromMap m' = metricsMemoryFromMap m := by
  simp only [metricsMemoryFromMap, integer_extension h "total_bytes" rfl,
    integer_extension h "available_bytes" rfl, integer_extension h "swap_total_bytes" rfl,
    integer_extension h "swap_available_bytes" rfl]

theorem systemFromMap_extension (h : Extension systemLayout (.map m) (.map m')) :
    systemFromMap m' = systemFromMap m := by
  simp only [systemFromMap, number_extension h "uptime_seconds" rfl,
    number_extension h "load_average_1m" rfl, number_extension h "load_average_5m" rfl,
    number_extension h "load_average_15m" rfl]

theorem metricsFromMap_extension {v v' : QCborValue} (h : Extension metricsLayout v v') :
    metricsFromMap v' = metricsFromMap v := by
  cases h.of with
  | refl => rfl
  | map hm =>
    have hm := Extension.mk h.unique (.map hm)
    refine bind_eq_of_rel (sectionOf_extension hm "cpu" rfl) fun cpu cpu' hcpu => ?_
    refine bind_eq_of_rel (sectionOf_extension hm "memory" rfl) fun memory memory' hmemory => ?_
    refine bind_eq_of_rel (sectionOf_extension hm "system" rfl) fun system system' hsystem => ?_
    rw [metricsCpuFromMap_extension hcpu, metricsMemoryFromMap_extension hmemory,
      systemFromMap_extension hsystem,
      named_extension (fun _ _ seen hitem => storageVolume_extension hitem seen)
        (hm.value "storage_volumes" rfl) 64,
      named_extension (fun _ _ seen hitem => networkInterface_extension hitem seen)
        (hm.value "network_interfaces" rfl) 64,
      named_extension (fun _ _ seen hitem => gpu_extension hitem seen) (hm.value "gpus" rfl) 16]
  | array | tag => rfl

theorem readMetrics_extension {v v' : QCborValue} (h : Extension metricsLayout v v') :
    readMetrics v' = readMetrics v := by
  have hmetrics := metricsFromMap_extension h
  cases h.of with
  | refl => rfl
  | map | array | tag => exact congrArg (Option.map some) hmetrics

end Metrics

section Messages

variable {root root' : QCborMap} (h : Extension messageLayout (.map root) (.map root'))

include h

theorem decodeHello_extension (device inst : QUuid) :
    decodeHello root' device inst = decodeHello root device inst := by
  rw [decodeHello, readDisplayName_extends (h.value "display_name" rfl).of,
    readInterval_extends (h.value "interval_s" rfl).of,
    infoFromMap_extension (h.value "system_info" rfl), decodeHello]

theorem decodeRegistrationResult_extension (device inst : QUuid) :
    decodeRegistrationResult root' device inst = decodeRegistrationResult root device inst := by
  have haccepted := (h.value "accepted" rfl).of
  rw [decodeRegistrationResult, readReason_extends (h.value "reason" rfl).of,
    decodeRegistrationResult]
  generalize root.value "accepted" = v at haccepted ⊢
  generalize root'.value "accepted" = v' at haccepted ⊢
  cases haccepted <;> rfl

theorem decodeSnapshot_extension (device inst : QUuid) :
    decodeSnapshot root' device inst = decodeSnapshot root device inst := by
  rw [decodeSnapshot, readInterval_extends (h.value "interval_s" rfl).of,
    readSequence_extends (h.value "sequence" rfl).of,
    infoFromMap_extension (h.value "system_info" rfl),
    readMetrics_extension (h.value "metrics" rfl), decodeSnapshot]

theorem decodeRoot_extension : decodeRoot root' = decodeRoot root := by
  have hversion := (h.value "version" rfl).of
  have htype := (h.value "type" rfl).of
  simp only [decodeRoot, idOf_extension h "device_id" rfl, idOf_extension h "instance_id" rfl,
    decodeHello_extension h, decodeRegistrationResult_extension h, decodeSnapshot_extension h]
  generalize root.value "version" = version at hversion ⊢
  generalize root'.value "version" = version' at hversion ⊢
  generalize root.value "type" = type at htype ⊢
  generalize root'.value "type" = type' at htype ⊢
  cases hversion <;> cases htype <;> rfl

end Messages

end Codec

theorem decodeMessage_of_read {qt : QtCbor} (hempty : qt.fromCbor [] = none)
    {bytes : QByteArray} {v : QCborValue} (hread : qt.fromCbor bytes = some v)
    (hsize : bytes.length ≤ maximumDatagramSize) :
    decodeMessage qt bytes =
      match some v with
      | some (.map root) => decodeRoot root
      | _ => reject "malformed_cbor" := by
  have hne : bytes ≠ [] := by
    rintro rfl
    cases hempty.symm.trans hread
  rw [decodeMessage, if_neg (by simp [hne, hsize])]
  cases v <;> simp only [hread]

/-- Unknown entries and the order of entries change neither the message nor the error. -/
theorem decodeMessage_extension (qt : QtCbor) (hempty : qt.fromCbor [] = none)
    (bytes bytes' : QByteArray) (v v' : QCborValue) (hread : qt.fromCbor bytes = some v)
    (hread' : qt.fromCbor bytes' = some v') (hsize : bytes.length ≤ maximumDatagramSize)
    (hsize' : bytes'.length ≤ maximumDatagramSize) (hunique : v.UniqueKeys)
    (hextends : Extends messageLayout v v') : decodeMessage qt bytes' = decodeMessage qt bytes := by
  rw [decodeMessage_of_read hempty hread hsize, decodeMessage_of_read hempty hread' hsize']
  cases hextends with
  | refl => rfl
  | map hm => exact decodeRoot_extension ⟨hunique, .map hm⟩
  | array | tag => rfl

/-- A hello with a key of its own and one in `system_info`, written back to front. -/
def newerHello : QCborMap :=
  ((.string "signature", .byteArray [7]) :: (helloToMap sampleHello).insert "system_info"
    (.map ((.string "site", .integer 3) :: infoToMap sampleHello.systemInfo))).reverse

theorem newerHello_extends :
    Extends messageLayout (.map (helloToMap sampleHello)) (.map newerHello) := by
  refine .map (.permute (.add (.string "signature") (.byteArray [7]) rfl ?_)
    (List.reverse_perm _).symm)
  exact ExtendsEntries.append ((helloToMap sampleHello).take 6) (.keep (.refl _ _)
    (.map (.add (.string "site") (.integer 3) rfl (.refl _ _))) .nil)

theorem infoToMap_sample :
    infoToMap sampleHello.systemInfo =
      [(.string "host", .map [(.string "host_name", .string "pi")]),
        (.string "hardware", .map [(.string "compatible_ids", .array [])])] := rfl

theorem newerHello_plain : (QCborValue.map newerHello).Plain 16 := by
  simp [newerHello, helloToMap, envelope, QCborMap.insert, infoToMap_sample, QCborValue.Plain]

theorem helloToMap_unique : (QCborValue.map (helloToMap sampleHello)).UniqueKeys := by
  simp [helloToMap, envelope, QCborMap.insert, infoToMap_sample, QCborValue.UniqueKeys,
    UniqueEntries, UniqueItems, QCborMap.Distinct]

theorem decodeMessage_extension_hello :
    decodeMessage .reference (QCborValue.map newerHello).toItem.encode =
      ⟨some (.hello sampleHello), ""⟩ := by
  have hwrite : encodeMessage .reference (.hello sampleHello) =
      (QCborValue.map (helloToMap sampleHello)).toItem.encode := rfl
  have hread := QtCbor.reference_rfc8949.fromCbor_encode (.map (helloToMap sampleHello))
    (messageToMap_plain 9 (.hello sampleHello)) (by decide +kernel)
  have hread' := QtCbor.reference_rfc8949.fromCbor_encode (.map newerHello) newerHello_plain
    (by decide +kernel)
  rw [decodeMessage_extension .reference rfl _ _ _ _ hread hread' (by decide +kernel)
    (by decide +kernel) helloToMap_unique newerHello_extends,
    ← hwrite]
  exact decodeMessage_encodeMessage QtCbor.reference_rfc8949 (by decide) (by decide +kernel)

end RpiDashboard.Protocol
