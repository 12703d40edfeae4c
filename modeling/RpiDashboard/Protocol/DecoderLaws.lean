import RpiDashboard.Protocol.Limits
import Mathlib.Data.List.Nodup

/-! Whatever the decoder returns is within the limits, for every reader `fromCbor`. -/

namespace RpiDashboard.Protocol.Codec

open Numeric Qt

theorem textWithin_of_validText {s : QString} {limit : Nat} (h : validText s limit = true) :
    TextWithin limit s := by
  simpa [validText, TextWithin] using h

theorem inRange_toUInt64 {i : Int64} (h : ¬ i < 0) : InRange i.toUInt64 := by
  have hi : 0 ≤ i := Int64.not_lt.mp h
  rw [InRange, Int64.toNat_toUInt64_of_le hi]
  have := i.toNatClampNeg_lt
  omega

theorem text_sound {map : QCborMap} {key : QString} {value : Option QString}
    (h : text map key = some value) : OptionalText value := by
  unfold text at h
  split at h
  · cases h
    simp [OptionalText]
  · split at h
    · next hs =>
      cases h
      simpa [OptionalText] using textWithin_of_validText hs
    · cases h
  · cases h

theorem integer_sound {map : QCborMap} {key : QString} {value : Option UInt64}
    (h : integer map key = some value) : OptionalInteger value := by
  unfold integer at h
  split at h
  · cases h
    simp [OptionalInteger]
  · split at h
    · cases h
    · next hi =>
      cases h
      simpa [OptionalInteger] using inRange_toUInt64 hi
  · cases h

theorem checkNumber_sound {d : Double} {ratio : Bool} {value : Option Double}
    (h : checkNumber d ratio = some value) :
    value = some d ∧ d.isFinite = true ∧ (ratio = true → 0 ≤ d.toRat ∧ d.toRat ≤ 1) := by
  unfold checkNumber at h
  split at h
  · cases h
  · next hd =>
    cases h
    simp only [Bool.or_eq_true, Bool.and_eq_true, Bool.not_eq_true', not_or, not_and,
      Bool.not_eq_false, Double.lt, decide_eq_true_eq, Double.toRat_zero, Double.toRat_one,
      Rat.not_lt] at hd
    exact ⟨rfl, hd.1, hd.2⟩

theorem number_sound {map : QCborMap} {key : QString} {ratio : Bool} {value : Option Double}
    (h : number map key ratio = some value) :
    ∀ d ∈ value, d.isFinite = true ∧ (ratio = true → 0 ≤ d.toRat ∧ d.toRat ≤ 1) := by
  unfold number at h
  split at h
  · cases h
    simp
  · obtain ⟨rfl, hd⟩ := checkNumber_sound h
    simpa using hd
  · obtain ⟨rfl, hd⟩ := checkNumber_sound h
    simpa using hd
  · cases h

theorem number_finite {map : QCborMap} {key : QString} {value : Option Double}
    (h : number map key false = some value) : OptionalNumber value :=
  fun d hd => (number_sound h d hd).1

theorem number_ratio {map : QCborMap} {key : QString} {value : Option Double}
    (h : number map key true = some value) : OptionalRatio value :=
  fun d hd => ⟨(number_sound h d hd).1, (number_sound h d hd).2 rfl⟩

theorem hostFromMap_sound {map : QCborMap} {host : SystemInfo.Host}
    (h : hostFromMap map = some host) : OptionalText host.hostName := by
  simp only [hostFromMap, Option.bind_eq_bind, Option.bind_eq_some_iff, Option.pure_def,
    Option.some.injEq] at h
  obtain ⟨_, h₁, rfl⟩ := h
  exact text_sound h₁

theorem osFromMap_sound {map : QCborMap} {os : SystemInfo.OperatingSystem}
    (h : osFromMap map = some os) : os.Valid := by
  simp only [osFromMap, Option.bind_eq_bind, Option.bind_eq_some_iff, Option.pure_def,
    Option.some.injEq] at h
  obtain ⟨_, h₁, _, h₂, _, h₃, _, h₄, rfl⟩ := h
  exact ⟨text_sound h₁, text_sound h₂, text_sound h₃, text_sound h₄⟩

theorem kernelFromMap_sound {map : QCborMap} {kernel : SystemInfo.Kernel}
    (h : kernelFromMap map = some kernel) : kernel.Valid := by
  simp only [kernelFromMap, Option.bind_eq_bind, Option.bind_eq_some_iff, Option.pure_def,
    Option.some.injEq] at h
  obtain ⟨_, h₁, _, h₂, rfl⟩ := h
  exact ⟨text_sound h₁, text_sound h₂⟩

theorem readIds_sound {seen : List QString} {raws : List QCborValue} {ids : List QString}
    (h : readIds seen raws = some ids) :
    ids.length = raws.length ∧ ids.Nodup ∧ (∀ s ∈ ids, s ∉ seen) ∧ ∀ s ∈ ids, TextWithin 256 s := by
  induction raws generalizing seen ids with
  | nil =>
    cases h
    simp
  | cons raw raws ih =>
    cases raw with
    | string s =>
      simp only [readIds] at h
      split at h
      · cases h
      · next hs =>
        simp only [Bool.or_eq_true, Bool.not_eq_true', List.contains_iff_mem, not_or,
          Bool.not_eq_false] at hs
        simp only [Option.bind_eq_bind, Option.bind_eq_some_iff, Option.pure_def,
          Option.some.injEq] at h
        obtain ⟨rest, hrest, rfl⟩ := h
        obtain ⟨hlen, hnodup, hseen, htext⟩ := ih hrest
        refine ⟨by simp [hlen], ?_, ?_, ?_⟩
        · exact List.nodup_cons.mpr ⟨fun hm => hseen s hm List.mem_cons_self, hnodup⟩
        · exact List.forall_mem_cons.mpr
            ⟨hs.2, fun t ht hm => hseen t ht (List.mem_cons_of_mem s hm)⟩
        · exact List.forall_mem_cons.mpr ⟨textWithin_of_validText hs.1, htext⟩
    | _ => cases h

theorem compatibleIds_sound {raw : QCborValue} {value : Option (List QString)}
    (h : compatibleIds raw = some value) : ∀ ids ∈ value, UniqueNames 32 ids := by
  unfold compatibleIds at h
  split at h
  · cases h
    simp
  · split at h
    · cases h
    · next hlen =>
      obtain ⟨ids, hids, rfl⟩ := Option.map_eq_some_iff.mp h
      obtain ⟨hl, hnodup, -, htext⟩ := readIds_sound hids
      rintro _ ⟨⟩
      exact ⟨by omega, hnodup, htext⟩
  · cases h

theorem hardwareFromMap_sound {map : QCborMap} {hardware : SystemInfo.Hardware}
    (h : hardwareFromMap map = some hardware) : hardware.Valid := by
  simp only [hardwareFromMap, Option.bind_eq_bind, Option.bind_eq_some_iff, Option.pure_def,
    Option.some.injEq] at h
  obtain ⟨_, h₁, _, h₂, _, h₃, _, h₄, rfl⟩ := h
  exact ⟨text_sound h₁, text_sound h₂, text_sound h₃, compatibleIds_sound h₄⟩

theorem checkInfo_sound {info result : SystemInfo} (h : checkInfo info = some result) :
    result = info ∧ info.hasAnyValue = true ∧ ∀ n ∈ info.cpu.logicalCpuCount, n.toNat ≤ 256 := by
  unfold checkInfo at h
  split at h
  · cases h
  · next hcount =>
    split at h
    · next hany =>
      cases h
      refine ⟨rfl, hany, fun n hn => ?_⟩
      rw [Option.mem_def] at hn
      simpa [hn, UInt32.lt_iff_toNat_lt] using hcount
    · cases h

theorem infoFromMap_sound {value : QCborValue} {info : SystemInfo}
    (h : infoFromMap value = some info) : info.Valid := by
  cases value with
  | map root =>
    simp only [infoFromMap, Option.bind_eq_bind, Option.bind_eq_some_iff] at h
    obtain ⟨_, -, _, -, _, -, _, -, _, -, _, -, host, hhost, os, hos, kernel, hkernel,
      hardware, hhardware, cpu, hcpu, memory, hmemory, hcheck⟩ := h
    obtain ⟨rfl, hany, hcount⟩ := checkInfo_sound hcheck
    simp only [cpuFromMap, Option.bind_eq_bind, Option.bind_eq_some_iff, Option.pure_def,
      Option.some.injEq] at hcpu
    obtain ⟨_, h₁, _, h₂, _, h₃, _, -, _, -, rfl⟩ := hcpu
    simp only [memoryFromMap, Option.bind_eq_bind, Option.bind_eq_some_iff, Option.pure_def,
      Option.some.injEq] at hmemory
    obtain ⟨_, h₄, rfl⟩ := hmemory
    exact {
      hostName := hostFromMap_sound hhost
      os := osFromMap_sound hos
      kernel := kernelFromMap_sound hkernel
      hardware := hardwareFromMap_sound hhardware
      cpu := ⟨text_sound h₁, text_sound h₂, text_sound h₃, hcount⟩
      totalBytes := integer_sound h₄
      hasAnyValue := hany }
  | _ => cases h

/-- An accepted list of identifiers is the list that was sent. -/
theorem readIds_strings {seen ids names : List QString}
    (h : readIds seen (names.map .string) = some ids) : ids = names := by
  induction names generalizing seen ids with
  | nil =>
    cases h
    rfl
  | cons name names ih =>
    simp only [List.map_cons, readIds] at h
    split at h
    case isTrue => cases h
    case isFalse =>
      simp only [Option.bind_eq_bind, Option.bind_eq_some_iff, Option.pure_def,
        Option.some.injEq] at h
      obtain ⟨rest, hrest, rfl⟩ := h
      rw [ih hrest]

theorem uniqueNames_of_compatibleIds {names : List QString}
    (h : (compatibleIds (.array (names.map .string))).isSome) : UniqueNames 32 names := by
  obtain ⟨value, hvalue⟩ := Option.isSome_iff_exists.mp h
  have hread := hvalue
  rw [compatibleIds] at hread
  split at hread
  case isTrue => cases hread
  case isFalse =>
    obtain ⟨ids, hids, rfl⟩ := Option.map_eq_some_iff.mp hread
    rw [← readIds_strings hids]
    exact compatibleIds_sound hvalue ids rfl

section Sections

variable {map root : QCborMap}

theorem hostFromMap_texts (h : (hostFromMap map).isSome) : (text map "host_name").isSome := by
  obtain ⟨_, h⟩ := Option.isSome_iff_exists.mp h
  simp only [hostFromMap, Option.bind_eq_bind, Option.bind_eq_some_iff] at h
  obtain ⟨_, h₁, -⟩ := h
  simp [h₁]

theorem osFromMap_texts (h : (osFromMap map).isSome) :
    ∀ key ∈ ["os_family", "os_id", "os_version", "os_pretty_name"], (text map key).isSome := by
  obtain ⟨_, h⟩ := Option.isSome_iff_exists.mp h
  simp only [osFromMap, Option.bind_eq_bind, Option.bind_eq_some_iff] at h
  obtain ⟨_, h₁, _, h₂, _, h₃, _, h₄, -⟩ := h
  simp [h₁, h₂, h₃, h₄]

theorem kernelFromMap_texts (h : (kernelFromMap map).isSome) :
    ∀ key ∈ ["kernel_type", "kernel_version"], (text map key).isSome := by
  obtain ⟨_, h⟩ := Option.isSome_iff_exists.mp h
  simp only [kernelFromMap, Option.bind_eq_bind, Option.bind_eq_some_iff] at h
  obtain ⟨_, h₁, _, h₂, -⟩ := h
  simp [h₁, h₂]

theorem hardwareFromMap_fields (h : (hardwareFromMap map).isSome) :
    (∀ key ∈ ["manufacturer", "model", "board_revision"], (text map key).isSome) ∧
      (compatibleIds (map.value "compatible_ids")).isSome := by
  obtain ⟨_, h⟩ := Option.isSome_iff_exists.mp h
  simp only [hardwareFromMap, Option.bind_eq_bind, Option.bind_eq_some_iff] at h
  obtain ⟨_, h₁, _, h₂, _, h₃, _, h₄, -⟩ := h
  simp [h₁, h₂, h₃, h₄]

theorem cpuFromMap_texts (h : (cpuFromMap map).isSome) :
    ∀ key ∈ ["architecture", "vendor", "model"], (text map key).isSome := by
  obtain ⟨_, h⟩ := Option.isSome_iff_exists.mp h
  simp only [cpuFromMap, Option.bind_eq_bind, Option.bind_eq_some_iff] at h
  obtain ⟨_, h₁, _, h₂, _, h₃, -⟩ := h
  simp [h₁, h₂, h₃]

theorem memoryFromMap_integer (h : (memoryFromMap map).isSome) :
    (integer map "total_bytes").isSome := by
  obtain ⟨_, h⟩ := Option.isSome_iff_exists.mp h
  simp only [memoryFromMap, Option.bind_eq_bind, Option.bind_eq_some_iff] at h
  obtain ⟨_, h₁, -⟩ := h
  simp [h₁]

/-- The sections of an accepted description, each by itself. -/
structure InfoSections (root : QCborMap) : Prop where
  host : ((sectionOf root "host").bind hostFromMap).isSome
  os : ((sectionOf root "os").bind osFromMap).isSome
  kernel : ((sectionOf root "kernel").bind kernelFromMap).isSome
  hardware : ((sectionOf root "hardware").bind hardwareFromMap).isSome
  cpu : ((sectionOf root "cpu").bind cpuFromMap).isSome
  memory : ((sectionOf root "memory").bind memoryFromMap).isSome

theorem infoFromMap_sections (h : (infoFromMap (.map root)).isSome) : InfoSections root := by
  obtain ⟨_, h⟩ := Option.isSome_iff_exists.mp h
  simp only [infoFromMap, Option.bind_eq_bind, Option.bind_eq_some_iff] at h
  obtain ⟨_, h₁, _, h₂, _, h₃, _, h₄, _, h₅, _, h₆, _, hhost, _, hos, _, hkernel, _, hhardware, _,
    hcpu, _, hmemory, -⟩ := h
  exact {
    host := by simp [h₁, hhost]
    os := by simp [h₂, hos]
    kernel := by simp [h₃, hkernel]
    hardware := by simp [h₄, hhardware]
    cpu := by simp [h₅, hcpu]
    memory := by simp [h₆, hmemory] }

end Sections

theorem uniqueName_sound {raw : QCborValue} {seen : List QString} {name : QString}
    (h : uniqueName raw seen = some name) : TextWithin 256 name ∧ name ∉ seen := by
  cases raw with
  | string s =>
    simp only [uniqueName] at h
    split at h
    · cases h
    · next hs =>
      cases h
      simp only [Bool.or_eq_true, Bool.not_eq_true', List.contains_iff_mem, not_or,
        Bool.not_eq_false] at hs
      exact ⟨textWithin_of_validText hs.1, hs.2⟩
  | _ => cases h

/-- What a parser of list items guarantees: the name it reports is the entry's
own, it is a text not seen before, and the entry satisfies `P`. -/
def ParsesTo {α : Type} (nameOf : α → QString) (P : α → Prop)
    (parse : QCborMap → List QString → Option (QString × α)) : Prop :=
  ∀ {item seen name entry}, parse item seen = some (name, entry) →
    nameOf entry = name ∧ TextWithin 256 name ∧ name ∉ seen ∧ P entry

section Named

variable {α : Type} {nameOf : α → QString} {P : α → Prop}
  {parse : QCborMap → List QString → Option (QString × α)}

theorem namedLoop_sound (hparse : ParsesTo nameOf P parse) {seen : List QString}
    {values : List QCborValue} {entries : List α} (h : namedLoop parse seen values = some entries) :
    entries.length = values.length ∧ (entries.map nameOf).Nodup ∧
      (∀ s ∈ entries.map nameOf, s ∉ seen ∧ TextWithin 256 s) ∧ ∀ entry ∈ entries, P entry := by
  induction values generalizing seen entries with
  | nil =>
    cases h
    simp
  | cons value values ih =>
    cases value with
    | map item =>
      simp only [namedLoop, Option.bind_eq_bind, Option.bind_eq_some_iff, Option.pure_def,
        Option.some.injEq] at h
      obtain ⟨⟨name, entry⟩, hentry, rest, hrest, rfl⟩ := h
      obtain ⟨hname, htext, hseen, hP⟩ := hparse hentry
      obtain ⟨hlen, hnodup, hnames, hall⟩ := ih hrest
      refine ⟨by simp [hlen], ?_, ?_, List.forall_mem_cons.mpr ⟨hP, hall⟩⟩
      · rw [List.map_cons, List.nodup_cons, hname]
        exact ⟨fun hm => (hnames name hm).1 List.mem_cons_self, hnodup⟩
      · rw [List.map_cons, List.forall_mem_cons, hname]
        exact ⟨⟨hseen, htext⟩, fun s hs =>
          ⟨fun hm => (hnames s hs).1 (List.mem_cons_of_mem name hm), (hnames s hs).2⟩⟩
    | _ => cases h

theorem named_sound (hparse : ParsesTo nameOf P parse) {raw : QCborValue} {limit : Nat}
    {entries : List α} (h : named raw limit parse = some entries) :
    UniqueNames limit (entries.map nameOf) ∧ ∀ entry ∈ entries, P entry := by
  unfold named at h
  split at h
  · cases h
    exact ⟨⟨Nat.zero_le _, List.nodup_nil, by simp⟩, by simp⟩
  · split at h
    · cases h
    · next hlen =>
      obtain ⟨hl, hnodup, hnames, hall⟩ := namedLoop_sound hparse h
      exact ⟨⟨by rw [List.length_map]; omega, hnodup, fun s hs => (hnames s hs).2⟩, hall⟩
  · cases h

/-- The names that a list was parsed with: each item's own, and all different. -/
theorem namedLoop_names {key : QString}
    (hparse : ∀ {item seen name entry}, parse item seen = some (name, entry) →
      item.value key = .string name ∧ name ∉ seen)
    {seen : List QString} {items : List QCborMap} {entries : List α}
    (h : namedLoop parse seen (items.map .map) = some entries) :
    ∃ names : List QString, names.Nodup ∧ (∀ s ∈ names, s ∉ seen) ∧
      items.map (QCborMap.value · key) = names.map .string := by
  induction items generalizing seen entries with
  | nil => exact ⟨[], List.nodup_nil, by simp, rfl⟩
  | cons item items ih =>
    simp only [List.map_cons, namedLoop, Option.bind_eq_bind, Option.bind_eq_some_iff] at h
    obtain ⟨⟨name, entry⟩, hentry, rest, hrest, -⟩ := h
    obtain ⟨hname, hseen⟩ := hparse hentry
    obtain ⟨names, hnodup, hnames, hvalues⟩ := ih hrest
    refine ⟨name :: names, ?_, ?_, by simp [hname, hvalues]⟩
    · exact List.nodup_cons.mpr ⟨fun hm => hnames name hm List.mem_cons_self, hnodup⟩
    · exact List.forall_mem_cons.mpr
        ⟨hseen, fun s hs hm => hnames s hs (List.mem_cons_of_mem name hm)⟩

end Named

theorem uniqueName_value {raw : QCborValue} {seen : List QString} {name : QString}
    (h : uniqueName raw seen = some name) : raw = .string name := by
  cases raw with
  | string s =>
    simp only [uniqueName] at h
    split at h <;> cases h
    rfl
  | _ => cases h

theorem logicalCpu_sound : ParsesTo SystemMetrics.LogicalCpu.name SystemMetrics.LogicalCpu.Valid
    logicalCpu := by
  intro item seen name entry h
  simp only [logicalCpu, Option.bind_eq_bind, Option.bind_eq_some_iff, Option.pure_def,
    Option.some.injEq, Prod.mk.injEq] at h
  obtain ⟨_, h₁, _, h₂, _, h₃, rfl, rfl⟩ := h
  obtain ⟨htext, hseen⟩ := uniqueName_sound h₁
  exact ⟨rfl, htext, hseen, number_ratio h₂, integer_sound h₃⟩

/-- The checks on a volume that need only its own map; the relation between its
two counters is checked later. -/
structure VolumeFields (entry : SystemMetrics.StorageVolume) : Prop where
  deviceName : TextWithin 256 entry.deviceName
  totalBytes : OptionalInteger entry.totalBytes
  availableBytes : OptionalInteger entry.availableBytes

theorem storageVolume_sound : ParsesTo SystemMetrics.StorageVolume.mountPoint VolumeFields
    storageVolume := by
  intro item seen name entry h
  unfold storageVolume at h
  split at h
  · split at h
    · cases h
    · next hs =>
      simp only [Bool.or_eq_true, Bool.not_eq_true', List.contains_iff_mem, not_or,
        Bool.not_eq_false] at hs
      simp only [Option.bind_eq_bind, Option.bind_eq_some_iff, Option.pure_def,
        Option.some.injEq, Prod.mk.injEq] at h
      obtain ⟨_, h₁, _, h₂, rfl, rfl⟩ := h
      exact ⟨rfl, textWithin_of_validText hs.1.1, hs.2, textWithin_of_validText hs.1.2,
        integer_sound h₁, integer_sound h₂⟩
  · cases h

theorem networkInterface_sound : ParsesTo SystemMetrics.NetworkInterface.name
    SystemMetrics.NetworkInterface.Valid networkInterface := by
  intro item seen name entry h
  simp only [networkInterface, Option.bind_eq_bind, Option.bind_eq_some_iff, Option.pure_def,
    Option.some.injEq, Prod.mk.injEq] at h
  obtain ⟨_, h₁, _, h₂, _, h₃, _, h₄, _, h₅, rfl, rfl⟩ := h
  obtain ⟨htext, hseen⟩ := uniqueName_sound h₁
  exact ⟨rfl, htext, hseen, integer_sound h₂, integer_sound h₃, number_finite h₄, number_finite h₅⟩

structure GpuFields (entry : SystemMetrics.Gpu) : Prop where
  usageRatio : OptionalRatio entry.usageRatio
  memoryTotalBytes : OptionalInteger entry.memoryTotalBytes
  memoryUsedBytes : OptionalInteger entry.memoryUsedBytes
  coreClockHz : OptionalInteger entry.coreClockHz
  memoryClockHz : OptionalInteger entry.memoryClockHz
  temperatureCelsius : OptionalNumber entry.temperatureCelsius

theorem gpu_sound : ParsesTo SystemMetrics.Gpu.name GpuFields gpu := by
  intro item seen name entry h
  simp only [gpu, Option.bind_eq_bind, Option.bind_eq_some_iff, Option.pure_def,
    Option.some.injEq, Prod.mk.injEq] at h
  obtain ⟨_, h₁, _, h₂, _, h₃, _, h₄, _, h₅, _, h₆, _, h₇, rfl, rfl⟩ := h
  obtain ⟨htext, hseen⟩ := uniqueName_sound h₁
  exact ⟨rfl, htext, hseen, number_ratio h₂, integer_sound h₃, integer_sound h₄, integer_sound h₅,
    integer_sound h₆, number_finite h₇⟩

theorem gpu_name {item : QCborMap} {seen : List QString} {name : QString}
    {entry : SystemMetrics.Gpu} (h : gpu item seen = some (name, entry)) :
    item.value "name" = .string name ∧ name ∉ seen := by
  simp only [gpu, Option.bind_eq_bind, Option.bind_eq_some_iff, Option.pure_def,
    Option.some.injEq, Prod.mk.injEq] at h
  obtain ⟨_, hname, _, _, _, _, _, _, _, _, _, _, _, _, rfl, -⟩ := h
  exact ⟨uniqueName_value hname, (uniqueName_sound hname).2⟩

/-- Two graphics cards of one name make the whole section unacceptable. -/
theorem metricsFromMap_gpus {root : QCborMap} {items : List QCborMap}
    (h : (metricsFromMap (.map root)).isSome) (hgpus : root.value "gpus" = .array (items.map .map)) :
    ∃ names : List QString, names.Nodup ∧
      items.map (QCborMap.value · "name") = names.map .string := by
  obtain ⟨metrics, hm⟩ := Option.isSome_iff_exists.mp h
  simp only [metricsFromMap, Option.bind_eq_bind, Option.bind_eq_some_iff] at hm
  obtain ⟨_, -, _, -, _, -, _, -, _, -, _, -, _, -, _, -, gpus, hnamed, -⟩ := hm
  rw [hgpus, named] at hnamed
  split at hnamed
  case isTrue => cases hnamed
  case isFalse =>
    obtain ⟨names, hnodup, -, hvalues⟩ := namedLoop_names gpu_name hnamed
    exact ⟨names, hnodup, hvalues⟩

theorem atMost_of_not_exceeds {part whole : Option UInt64} (h : ¬ exceeds part whole = true) :
    AtMost part whole := by
  rintro p ⟨⟩ w ⟨⟩
  simpa [exceeds] using h

theorem checkMetrics_sound {metrics result : SystemMetrics}
    (h : checkMetrics metrics = some result) :
    result = metrics ∧
      AtMost metrics.memory.availableBytes metrics.memory.totalBytes ∧
      AtMost metrics.memory.swapAvailableBytes metrics.memory.swapTotalBytes ∧
      (∀ item ∈ metrics.storageVolumes, AtMost item.availableBytes item.totalBytes) ∧
      ∀ item ∈ metrics.gpus, AtMost item.memoryUsedBytes item.memoryTotalBytes := by
  unfold checkMetrics at h
  split at h
  · cases h
  · next hmemory =>
    split at h
    · cases h
    · next hvolumes =>
      split at h
      · cases h
      · next hgpus =>
        cases h
        rw [Bool.or_eq_true, not_or] at hmemory
        rw [List.any_eq_true, not_exists] at hvolumes hgpus
        exact ⟨rfl, atMost_of_not_exceeds hmemory.1, atMost_of_not_exceeds hmemory.2,
          fun item hi => atMost_of_not_exceeds fun he => hvolumes item ⟨hi, he⟩,
          fun item hi => atMost_of_not_exceeds fun he => hgpus item ⟨hi, he⟩⟩

theorem metricsCpuFromMap_sound {map : QCborMap} {cpu : SystemMetrics.Cpu}
    (h : metricsCpuFromMap map = some cpu) : cpu.Valid := by
  simp only [metricsCpuFromMap, Option.bind_eq_bind, Option.bind_eq_some_iff, Option.pure_def,
    Option.some.injEq] at h
  obtain ⟨_, h₁, _, h₂, _, h₃, rfl⟩ := h
  obtain ⟨hnames, hall⟩ := named_sound logicalCpu_sound h₃
  exact ⟨number_ratio h₁, number_finite h₂, hnames, hall⟩

theorem systemFromMap_sound {map : QCborMap} {system : SystemMetrics.System}
    (h : systemFromMap map = some system) : system.Valid := by
  simp only [systemFromMap, Option.bind_eq_bind, Option.bind_eq_some_iff, Option.pure_def,
    Option.some.injEq] at h
  obtain ⟨_, h₁, _, h₂, _, h₃, _, h₄, rfl⟩ := h
  exact ⟨number_finite h₁, number_finite h₂, number_finite h₃, number_finite h₄⟩

theorem metricsFromMap_sound {value : QCborValue} {metrics : SystemMetrics}
    (h : metricsFromMap value = some metrics) : metrics.Valid := by
  cases value with
  | map root =>
    simp only [metricsFromMap, Option.bind_eq_bind, Option.bind_eq_some_iff] at h
    obtain ⟨_, -, _, -, _, -, cpu, hcpu, memory, hmemory, system, hsystem, volumes, hvolumes,
      interfaces, hinterfaces, gpus, hgpus, hcheck⟩ := h
    obtain ⟨rfl, havailable, hswap, hvolume, hgpu⟩ := checkMetrics_sound hcheck
    simp only [metricsMemoryFromMap, Option.bind_eq_bind, Option.bind_eq_some_iff,
      Option.pure_def, Option.some.injEq] at hmemory
    obtain ⟨_, h₁, _, h₂, _, h₃, _, h₄, rfl⟩ := hmemory
    obtain ⟨volumeNames, hvolumes⟩ := named_sound storageVolume_sound hvolumes
    obtain ⟨interfaceNames, hinterfaces⟩ := named_sound networkInterface_sound hinterfaces
    obtain ⟨gpuNames, hgpus⟩ := named_sound gpu_sound hgpus
    exact {
      cpu := metricsCpuFromMap_sound hcpu
      memory := ⟨integer_sound h₁, integer_sound h₂, integer_sound h₃, integer_sound h₄,
        havailable, hswap⟩
      system := systemFromMap_sound hsystem
      volumeNames := volumeNames
      storageVolumes := fun entry he =>
        let fields := hvolumes entry he
        ⟨fields.deviceName, fields.totalBytes, fields.availableBytes, hvolume entry he⟩
      interfaceNames := interfaceNames
      networkInterfaces := hinterfaces
      gpuNames := gpuNames
      gpus := fun entry he =>
        let fields := hgpus entry he
        ⟨fields.usageRatio, fields.memoryTotalBytes, fields.memoryUsedBytes, fields.coreClockHz,
          fields.memoryClockHz, fields.temperatureCelsius, hgpu entry he⟩ }
  | _ => cases h

theorem idOf_sound {map : QCborMap} {key : QString} {u : QUuid} (h : idOf map key = some u) :
    u ≠ .null := by
  unfold idOf at h
  split at h
  · split at h
    · cases h
    · dsimp only at h
      split at h
      · cases h
      · next hn =>
        cases h
        simpa [QUuid.isNull] using hn
  · cases h

theorem readInterval_sound {value : QCborValue} {interval : Int}
    (h : readInterval value = some interval) : IntervalWithin interval := by
  cases value with
  | integer i =>
    simp only [readInterval] at h
    split at h
    · cases h
    · next hi =>
      cases h
      simpa [IntervalWithin, Int64.lt_iff_toInt_lt] using hi
  | _ => cases h

theorem readDisplayName_sound {value : QCborValue} {name : QString}
    (h : readDisplayName value = some name) : TextWithin 128 name := by
  cases value with
  | string s =>
    simp only [readDisplayName] at h
    split at h
    · next hs =>
      cases h
      exact textWithin_of_validText hs
    · cases h
  | _ => cases h

theorem readSequence_sound {value : QCborValue} {sequence : UInt64}
    (h : readSequence value = some sequence) : InRange sequence := by
  cases value with
  | integer i =>
    simp only [readSequence] at h
    split at h
    · cases h
    · next hi =>
      cases h
      exact inRange_toUInt64 hi
  | _ => cases h

theorem readReason_sound {value : QCborValue} {reason : QString}
    (h : readReason value = some reason) : (toUtf8 reason).length ≤ 64 := by
  cases value with
  | undefined =>
    cases h
    exact Nat.zero_le 64
  | string s =>
    simp only [readReason] at h
    split at h
    · cases h
    · next hs =>
      cases h
      exact Nat.not_lt.mp hs
  | _ => cases h

theorem readMetrics_sound {raw : QCborValue} {value : Option SystemMetrics}
    (h : readMetrics raw = some value) : ∀ metrics ∈ value, metrics.Valid := by
  unfold readMetrics at h
  split at h
  · cases h
    simp
  · obtain ⟨metrics, hm, rfl⟩ := Option.map_eq_some_iff.mp h
    rintro _ ⟨⟩
    exact metricsFromMap_sound hm

/-- Either a valid message and no error, or an error and no message. -/
def Sound (result : DecodeResult) : Prop :=
  (∃ message, result = accept message ∧ message.Valid) ∨ ∃ error, error ≠ "" ∧ result = reject error

theorem sound_reject {error : QString} (h : error ≠ "") : Sound (reject error) :=
  .inr ⟨error, h, rfl⟩

section Decode

variable {device inst : QUuid} (hdevice : device ≠ .null) (hinst : inst ≠ .null) (root : QCborMap)

include hdevice hinst

theorem decodeHello_sound : Sound (decodeHello root device inst) := by
  unfold decodeHello
  split
  · next name interval info hname hinterval hinfo =>
    exact .inl ⟨_, rfl, hdevice, hinst, readDisplayName_sound hname, readInterval_sound hinterval,
      infoFromMap_sound hinfo⟩
  · exact sound_reject (by decide)

theorem decodeRegistrationResult_sound : Sound (decodeRegistrationResult root device inst) := by
  unfold decodeRegistrationResult
  split
  · next hreason => exact .inl ⟨_, rfl, hdevice, hinst, readReason_sound hreason⟩
  · exact sound_reject (by decide)

theorem decodeSnapshot_sound : Sound (decodeSnapshot root device inst) := by
  unfold decodeSnapshot
  split
  · next interval sequence info hinterval hsequence hinfo =>
    split
    · next hmetrics =>
      exact .inl ⟨_, rfl, hdevice, hinst, readInterval_sound hinterval,
        readSequence_sound hsequence, infoFromMap_sound hinfo, readMetrics_sound hmetrics⟩
    · exact sound_reject (by decide)
  · exact sound_reject (by decide)

end Decode

theorem decodeRoot_sound (root : QCborMap) : Sound (decodeRoot root) := by
  unfold decodeRoot
  split
  · split
    · exact sound_reject (by decide)
    · split
      · next hdevice hinst =>
        split_ifs
        · exact decodeHello_sound (idOf_sound hdevice) (idOf_sound hinst) root
        · exact decodeRegistrationResult_sound (idOf_sound hdevice) (idOf_sound hinst) root
        · exact decodeSnapshot_sound (idOf_sound hdevice) (idOf_sound hinst) root
        · exact sound_reject (by decide)
      · exact sound_reject (by decide)
  · exact sound_reject (by decide)

theorem sound_decodeMessage (qt : QtCbor) (bytes : QByteArray) : Sound (decodeMessage qt bytes) := by
  unfold decodeMessage
  split
  · exact sound_reject (by decide)
  · split
    · exact decodeRoot_sound _
    · exact sound_reject (by decide)

end RpiDashboard.Protocol.Codec

namespace RpiDashboard.Protocol

open Codec

theorem decodeMessage_valid {qt : Qt.QtCbor} {bytes : Qt.QByteArray} {message : TelemetryMessage}
    (h : (decodeMessage qt bytes).message = some message) : message.Valid := by
  obtain ⟨m, hm, hv⟩ | ⟨e, -, he⟩ := sound_decodeMessage qt bytes
  · rw [hm] at h
    cases h
    exact hv
  · rw [he] at h
    cases h

/-- For any bytes, and whatever the CBOR reader makes of them, the decoder sets
exactly one of message and error, and a message it sets is within every limit. -/
theorem decodeMessage_sound (qt : Qt.QtCbor) (bytes : Qt.QByteArray) :
    ((decodeMessage qt bytes).message.isSome = true ↔ (decodeMessage qt bytes).error = "") ∧
      ∀ message ∈ (decodeMessage qt bytes).message, message.Valid := by
  refine ⟨?_, fun message hm => decodeMessage_valid hm⟩
  obtain ⟨m, hm, -⟩ | ⟨e, he, hr⟩ := sound_decodeMessage qt bytes
  · simp [hm, accept]
  · simp [hr, reject, he]

end RpiDashboard.Protocol
