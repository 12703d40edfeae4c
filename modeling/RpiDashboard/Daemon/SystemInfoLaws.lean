import RpiDashboard.Daemon.BuildLaws
import RpiDashboard.Daemon.SystemInfo
import RpiDashboard.Protocol.DecoderLaws
import RpiDashboard.Qt.Utf8Laws

/-! What `Collector::system_info` reports is taken as long as the texts, the identifiers and the
memory that the daemon finds are within the limits of the wire format; it does not check them. -/

namespace RpiDashboard.Daemon

open Qt Protocol

section Letters

variable {t u : StdString}

theorem exchanges_tolower (c : UInt8) : Exchanges (tolower c) c := by
  unfold tolower
  split
  case isTrue hc =>
    simp only [Bool.and_eq_true, decide_eq_true_eq, UInt8.le_iff_toNat_le] at hc
    refine .inr ⟨?_, ?_⟩ <;> rw [UInt8.lt_iff_toNat_lt]
    · rw [UInt8.toNat_add]
      simp at hc ⊢
      omega
    · simp at hc ⊢
      omega
  case isFalse => exact .inl rfl

theorem exchanges_toupper (c : UInt8) : Exchanges (toupper c) c := by
  unfold toupper
  split
  case isTrue hc =>
    simp only [Bool.and_eq_true, decide_eq_true_eq, UInt8.le_iff_toNat_le] at hc
    refine .inr ⟨?_, ?_⟩ <;> rw [UInt8.lt_iff_toNat_lt]
    · have hle : (0x20 : UInt8) ≤ c := UInt8.le_iff_toNat_le.mpr (by simp at hc ⊢; omega)
      rw [UInt8.toNat_sub_of_le _ _ hle]
      simp at hc ⊢
      omega
    · simp at hc ⊢
      omega
  case isFalse => exact .inl rfl

theorem isUtf8_of_exchanges (h : List.Forall₂ Exchanges u t) (ht : IsUtf8 t) : IsUtf8 u :=
  isSome_fromUtf8?_of_exchanges h ht

theorem isShort_of_exchanges (h : List.Forall₂ Exchanges u t) (ht : IsShort t) : IsShort u := by
  obtain ⟨hutf8, hne, hlen⟩ := ht
  refine ⟨isUtf8_of_exchanges h hutf8, fun hu => hne ?_, h.length_eq ▸ hlen⟩
  subst hu
  cases h
  rfl

theorem forall₂_lower (t : StdString) : List.Forall₂ Exchanges (lower t) t :=
  List.forall₂_map_left_iff.mpr (List.forall₂_same.mpr fun c _ => exchanges_tolower c)

theorem forall₂_upper (t : StdString) : List.Forall₂ Exchanges (upper t) t :=
  List.forall₂_map_left_iff.mpr (List.forall₂_same.mpr fun c _ => exchanges_toupper c)

theorem isShort_lower : IsShort (lower t) ↔ IsShort t := by
  constructor
  case mp =>
    exact isShort_of_exchanges ((forall₂_lower t).imp fun _ _ => Exchanges.symm).flip
  case mpr => exact isShort_of_exchanges (forall₂_lower t)

theorem isShort_canonicalArchitecture : IsShort (canonicalArchitecture t) ↔ IsShort t := by
  unfold canonicalArchitecture
  split
  case isTrue h =>
    rw [h]
    decide +kernel
  case isFalse =>
    split
    case isTrue h =>
      rw [h]
      decide +kernel
    case isFalse => rfl

theorem isUtf8_of_append (hu : ∀ c ∈ u, c < 0x80) (h : IsUtf8 (u ++ t)) : IsUtf8 t := by
  induction u with
  | nil => exact h
  | cons c u ih =>
    obtain ⟨hc, hu⟩ := List.forall_mem_cons.mp hu
    exact ih hu (isSome_fromUtf8?_of_cons hc h)

/-- The model of a processor is no longer than its identifier. -/
theorem isShort_broadcom (hid : (lit "brcm,bcm").isPrefixOf t) (ht : IsShort t) :
    IsShort (upper (t.drop 5)) := by
  obtain ⟨rest, rfl⟩ := List.isPrefixOf_iff_prefix.mp hid
  obtain ⟨hutf8, -, hlen⟩ := ht
  have hsplit : lit "brcm,bcm" = lit "brcm," ++ lit "bcm" := by decide +kernel
  have hdrop : (lit "brcm,bcm" ++ rest).drop 5 = lit "bcm" ++ rest := by
    rw [hsplit, List.append_assoc]
    exact List.drop_left' (by decide +kernel)
  rw [hdrop]
  have hne : lit "bcm" ≠ [] := by decide +kernel
  refine isShort_of_exchanges (forall₂_upper _) ⟨?_, by simp [hne], ?_⟩
  · rw [hsplit, List.append_assoc] at hutf8
    exact isUtf8_of_append (by decide +kernel) hutf8
  · rw [hsplit, List.append_assoc, List.length_append] at hlen
    omega

end Letters

section Leaves

variable {m sub : StdMap} {root : QCborMap} {key : String} {text? : Option StdString}

theorem Reads.isShort {t : StdString} (h : Reads m root) (ht : m.find (lit key) = some (.text t))
    (hv : (Codec.text root key).isSome) : IsShort t := by
  obtain ⟨s, hs, rfl⟩ := h.text ht
  have hvalid : Codec.validText s 256 = true := by
    by_contra hinvalid
    simp [Codec.text, hs, hinvalid] at hv
  exact IsShortText.isShort ⟨s, rfl, Codec.textWithin_of_validText hvalid⟩

theorem Reads.shorts (h : Reads m root) (ht : m.find (lit key) = text?.map .text)
    (hv : (Codec.text root key).isSome) : ∀ t ∈ text?, IsShort t := by
  rintro t ⟨⟩
  exact h.isShort ht hv

theorem shortText_of_find (ht : m.find (lit key) = text?.map .text) (hs : ∀ t ∈ text?, IsShort t) :
    ∀ v ∈ m.find (lit key), IsShortText v := by
  rw [ht]
  exact Option.forall_mem_map.mpr fun t hmem => (hs t hmem).text

/-- Beyond the signed range a number becomes a double, and that is not taken. -/
theorem Reads.inRange {n : UInt64} (h : Reads m root) (hn : m.find (lit key) = some (.unsigned n))
    (hv : (Codec.integer root key).isSome) : InRange n := by
  have hread := h key _ hn
  rw [Value.read, Value.toItem, QCborValue.ofItem, Option.some.injEq] at hread
  split at hread
  case isTrue hlt =>
    rw [InRange]
    omega
  case isFalse => simp [Codec.integer, ← hread] at hv

theorem read_strings {ts : List StdString} {ys : List QCborValue}
    (h : List.Forall₂ (fun x y => x.read = some y) (ts.map Value.text) ys) :
    ∃ names : List QString, ys = names.map .string ∧ ts = names.map toUtf8 := by
  rw [List.forall₂_map_left_iff] at h
  induction h with
  | nil => exact ⟨[], rfl, rfl⟩
  | cons ht _ ih =>
    obtain ⟨s, rfl, rfl⟩ := read_text ht
    obtain ⟨names, rfl, rfl⟩ := ih
    exact ⟨s :: names, rfl, rfl⟩

theorem Reads.ids {ts : List StdString} (h : Reads m root)
    (ht : m.find (lit key) = some (.array (ts.map .text)))
    (hv : (Codec.compatibleIds (root.value key)).isSome) :
    ts.length ≤ 32 ∧ ts.Nodup ∧ ∀ t ∈ ts, IsShort t := by
  obtain ⟨ys, hys, hread⟩ := read_array (h key _ ht)
  obtain ⟨names, rfl, rfl⟩ := read_strings hread
  rw [hys] at hv
  obtain ⟨hlen, hnodup, htexts⟩ := Codec.uniqueNames_of_compatibleIds hv
  refine ⟨by rwa [List.length_map], hnodup.map toUtf8_injective, ?_⟩
  exact List.forall_mem_map.mpr fun s hs => IsShortText.isShort ⟨s, rfl, htexts s hs⟩

/-- A section that is not sent has nothing in it. -/
theorem Reads.subsection {α : Type} {parse : QCborMap → Option α} (h : Reads m root)
    (hfind : sub ≠ [] → m.find (lit key) = some (.map sub)) (hn : (sub.map Prod.fst).Nodup)
    (hv : ((Codec.sectionOf root key).bind parse).isSome) :
    ∃ s, Reads sub s ∧ (parse s).isSome := by
  obtain ⟨_, hparse⟩ := Option.isSome_iff_exists.mp hv
  obtain ⟨s, hs, hparse⟩ := Option.bind_eq_some_iff.mp hparse
  refine ⟨s, ?_, by rw [hparse]; rfl⟩
  by_cases hsub : sub = []
  case pos =>
    subst hsub
    exact fun _ _ hnone => nomatch hnone
  case neg =>
    obtain ⟨s', hvalue, hreads⟩ := h.map (hfind hsub) hn
    rw [Codec.sectionOf, hvalue] at hs
    cases hs
    exact hreads

end Leaves

section Sections

variable {h : Host}

def manufacturer (h : Host) : Option StdString :=
  if isPi h then some (lit "Raspberry Pi") else cleanFile h "/sys/class/dmi/id/sys_vendor"

def hardwareModel (h : Host) : Option StdString :=
  (if isPi h then piModel h else none).or (cleanFile h "/sys/class/dmi/id/product_name")

def boardRevision (h : Host) : Option StdString :=
  if isPi h then cpuInfo h "Revision" else none

def cpuVendor (h : Host) : Option StdString :=
  ((broadcomModel h).map fun _ => lit "Broadcom").or (cpuInfo h "vendor_id")

def cpuModel (h : Host) : Option StdString := (broadcomModel h).or (cpuInfo h "model name")

theorem find_manufacturer :
    (hardwareSection h).find (lit "manufacturer") = (manufacturer h).map .text := by
  unfold hardwareSection manufacturer
  split <;> simp

theorem find_hardwareModel :
    (hardwareSection h).find (lit "model") = (hardwareModel h).map .text := by
  unfold hardwareSection hardwareModel
  split <;> simp [Option.map_or]

theorem find_boardRevision :
    (hardwareSection h).find (lit "board_revision") = (boardRevision h).map .text := by
  unfold hardwareSection boardRevision
  split <;> simp

theorem find_compatibleIds : (hardwareSection h).find (lit "compatible_ids") =
    if isPi h then some (.array ((compatibleIds h).map .text)) else none := by
  unfold hardwareSection
  split <;> simp

theorem find_cpuVendor : (cpuInfoSection h).find (lit "vendor") = (cpuVendor h).map .text := by
  unfold cpuInfoSection cpuVendor
  split <;> simp [*]

theorem find_cpuModel : (cpuInfoSection h).find (lit "model") = (cpuModel h).map .text := by
  unfold cpuInfoSection cpuModel
  split <;> simp [*]

theorem find_architecture :
    (cpuInfoSection h).find (lit "architecture") = (architecture h).map .text := by
  unfold cpuInfoSection
  split <;> simp

theorem find_logicalCpuCount :
    (cpuInfoSection h).find (lit "logical_cpu_count") = (logicalCpuCount h).map countValue := by
  unfold cpuInfoSection
  split <;> simp

theorem find_physicalCoreCount :
    (cpuInfoSection h).find (lit "physical_core_count") =
      (physicalCoreCount h).map countValue := by
  unfold cpuInfoSection
  split <;> simp

theorem builds_hostSection : Builds (keysOf hostLimits) (hostSection h) :=
  (builds_nil _).putSome (by simp [hostLimits])

theorem builds_osSection : Builds (keysOf osLimits) (osSection h) :=
  ((((builds_nil _).putSome (by simp [osLimits])).putSome (by simp [osLimits])).putSome
    (by simp [osLimits])).putSome (by simp [osLimits])

theorem builds_kernelSection : Builds (keysOf kernelLimits) (kernelSection h) :=
  ((builds_nil _).putSome (by simp [kernelLimits])).putSome (by simp [kernelLimits])

theorem builds_hardwareSection : Builds (keysOf hardwareLimits) (hardwareSection h) := by
  have hgeneric : Builds (keysOf hardwareLimits) ((StdMap.assignSome [] "manufacturer"
      ((cleanFile h "/sys/class/dmi/id/sys_vendor").map .text)).assignSome "model"
        ((cleanFile h "/sys/class/dmi/id/product_name").map .text)) :=
    ((builds_nil _).putSome (by simp [hardwareLimits])).putSome (by simp [hardwareLimits])
  unfold hardwareSection
  split
  case isTrue =>
    exact (((hgeneric.put (by simp [hardwareLimits])).put (by simp [hardwareLimits])).putSome
      (by simp [hardwareLimits])).putSome (by simp [hardwareLimits])
  case isFalse => exact hgeneric

theorem builds_cpuInfoSection : Builds (keysOf cpuLimits) (cpuInfoSection h) := by
  have hgeneric : Builds (keysOf cpuLimits) (((((StdMap.assignSome [] "architecture"
      ((architecture h).map .text)).assignSome "vendor" ((cpuInfo h "vendor_id").map
        .text)).assignSome "model" ((cpuInfo h "model name").map .text)).assignSome
          "logical_cpu_count" ((logicalCpuCount h).map countValue)).assignSome
            "physical_core_count" ((physicalCoreCount h).map countValue)) :=
    (((((builds_nil _).putSome (by simp [cpuLimits])).putSome (by simp [cpuLimits])).putSome
      (by simp [cpuLimits])).putSome (by simp [cpuLimits])).putSome (by simp [cpuLimits])
  unfold cpuInfoSection
  split
  case h_1 => exact (hgeneric.put (by simp [cpuLimits])).put (by simp [cpuLimits])
  case h_2 => exact hgeneric

theorem builds_memoryInfo : Builds (keysOf memoryFields) (memoryInfo h) :=
  (builds_nil _).putSome (by simp [memoryFields])

end Sections

section Counts

variable {h : Host} {ids : List Nat}

theorem addCpu_length_le {id : Nat} {next : List Nat} (hadd : addCpu ids id = some next) :
    next.length ≤ kMaximumCpuCount := by
  unfold addCpu at hadd
  split at hadd
  case isTrue => cases hadd
  case isFalse hnot =>
    cases hadd
    rw [List.length_append, List.length_singleton]
    omega

theorem foldlM_invariant {α β : Type} {P : α → Prop} {step : α → β → Option α} {start last : α}
    {xs : List β} (h₀ : P start) (hstep : ∀ a x b, P a → step a x = some b → P b)
    (hfold : xs.foldlM step start = some last) : P last := by
  induction xs generalizing start with
  | nil =>
    cases hfold
    exact h₀
  | cons x xs ih =>
    rw [List.foldlM_cons, Option.bind_eq_bind] at hfold
    obtain ⟨next, hnext, hrest⟩ := Option.bind_eq_some_iff.mp hfold
    exact ih (hstep start x next h₀ hnext) hrest

theorem addCpus_length_le {entry : StdString} {next : List Nat}
    (hle : ids.length ≤ kMaximumCpuCount) (hadd : addCpus ids entry = some next) :
    next.length ≤ kMaximumCpuCount := by
  rw [addCpus, Option.bind_eq_bind] at hadd
  obtain ⟨⟨first, last⟩, -, hfold⟩ := Option.bind_eq_some_iff.mp hadd
  have hstep : ∀ (a : List Nat) (id : Nat) (b : List Nat), a.length ≤ kMaximumCpuCount →
      addCpu a id = some b → b.length ≤ kMaximumCpuCount := fun _ _ _ _ => addCpu_length_le
  exact foldlM_invariant (P := fun ids => ids.length ≤ kMaximumCpuCount) hle hstep hfold

theorem onlineCpuIds_length_le {contents : StdString} (hids : onlineCpuIds contents = some ids) :
    ids.length ≤ kMaximumCpuCount := by
  simp only [onlineCpuIds] at hids
  split at hids
  case isTrue => cases hids
  case isFalse =>
    obtain ⟨hfold, -⟩ := Option.filter_eq_some_iff.mp hids
    have hstep : ∀ (a : List Nat) (entry : StdString) (b : List Nat),
        a.length ≤ kMaximumCpuCount → addCpus a entry = some b → b.length ≤ kMaximumCpuCount :=
      fun _ _ _ => addCpus_length_le
    exact foldlM_invariant (P := fun ids => ids.length ≤ kMaximumCpuCount) (Nat.zero_le _) hstep
      hfold

theorem logicalCpuCount_le : ∀ n ∈ logicalCpuCount h, n ≤ kMaximumCpuCount := by
  intro n hn
  unfold logicalCpuCount at hn
  split at hn
  case h_1 online honline =>
    cases hn
    obtain ⟨contents, -, hids⟩ := Option.bind_eq_some_iff.mp honline
    exact onlineCpuIds_length_le hids
  case h_2 =>
    split at hn
    case isTrue hprocessors =>
      cases hn
      have := hprocessors.2.2
      omega
    case isFalse => cases hn

theorem physicalCoreCount_le : ∀ n ∈ physicalCoreCount h, n ≤ kMaximumCpuCount := by
  intro n hn
  obtain ⟨online, -, hcores⟩ := Option.bind_eq_some_iff.mp hn
  have hcount := (Option.filter_eq_some_iff.mp hcores).2
  simp only [Bool.and_eq_true, decide_eq_true_eq] at hcount
  exact hcount.2

theorem isCpuCount_countValue {n : Nat} (hn : n ≤ kMaximumCpuCount) : IsCpuCount (countValue n) := by
  have hlt : n < 2 ^ 32 := by
    unfold kMaximumCpuCount at hn
    omega
  have hnat : (UInt32.ofNat n).toNat = n := UInt32.toNat_ofNat_of_lt' hlt
  refine ⟨UInt32.ofNat n, ?_, hnat.symm ▸ hn⟩
  rw [countValue]
  congr 1
  apply UInt64.toNat_inj.mp
  rw [UInt32.toNat_toUInt64, hnat, UInt64.toNat_ofNat_of_lt' (by simp only [UInt64.size]; omega)]

end Counts

section Root

variable {h : Host}

/-- What the device tree of a Raspberry Pi and its processor have to say. -/
structure PiDescribable (h : Host) : Prop where
  length_le : (compatibleIds h).length ≤ 32
  nodup : (compatibleIds h).Nodup
  ids : ∀ id ∈ compatibleIds h, IsShort id
  model : ∀ t ∈ piModel h, IsShort t
  revision : ∀ t ∈ cpuInfo h "Revision", IsShort t

/-- What a description needs to be taken: texts in UTF-8, to the letter, of at most 256 bytes, at
most 32 different identifiers, and an amount of memory within the signed range.  Texts that the
device tree replaces do not matter. -/
structure Describable (h : Host) : Prop where
  host : ∀ t ∈ hostName h, IsShort t
  uname : ∀ field ∈ [Utsname.sysname, Utsname.release, Utsname.machine],
    ∀ t ∈ unameField h field, IsShort t
  release : ∀ key ∈ ["ID", "VERSION_ID", "PRETTY_NAME"], ∀ t ∈ osRelease h key, IsShort t
  memory : ∀ n ∈ totalBytes h, InRange n
  vendor : isPi h = false → ∀ t ∈ cleanFile h "/sys/class/dmi/id/sys_vendor", IsShort t
  product : isPi h = false ∨ piModel h = none →
    ∀ t ∈ cleanFile h "/sys/class/dmi/id/product_name", IsShort t
  pi : isPi h = true → PiDescribable h
  processor : broadcomModel h = none →
    ∀ key ∈ ["vendor_id", "model name"], ∀ t ∈ cpuInfo h key, IsShort t

theorem kernelType_iff : (∀ t ∈ kernelType h, IsShort t) ↔
    ∀ t ∈ unameField h Utsname.sysname, IsShort t := by
  rw [kernelType, Option.forall_mem_map]
  exact forall₂_congr fun _ _ => isShort_lower

theorem architecture_iff : (∀ t ∈ architecture h, IsShort t) ↔
    ∀ t ∈ unameField h Utsname.machine, IsShort t := by
  rw [architecture, Option.forall_mem_map]
  exact forall₂_congr fun _ _ => isShort_canonicalArchitecture.trans isShort_lower

theorem Describable.entries_hostSection (hd : Describable h) : Entries hostLimits (hostSection h) :=
  (builds_hostSection.of_find <| List.forall_mem_singleton.mpr <|
    shortText_of_find (by simp [hostSection]) hd.host).entries

theorem Describable.entries_osSection (hd : Describable h) : Entries osLimits (osSection h) := by
  refine (builds_osSection.of_find ?_).entries
  simp only [osLimits, List.forall_mem_cons]
  refine ⟨?_, ?_, ?_, ?_, by simp⟩
  · exact shortText_of_find (by simp [osSection]) (kernelType_iff.mpr (hd.uname _ (by simp)))
  · exact shortText_of_find (by simp [osSection]) (hd.release "ID" (by simp))
  · exact shortText_of_find (by simp [osSection]) (hd.release "VERSION_ID" (by simp))
  · exact shortText_of_find (by simp [osSection]) (hd.release "PRETTY_NAME" (by simp))

theorem Describable.entries_kernelSection (hd : Describable h) :
    Entries kernelLimits (kernelSection h) := by
  have hrelease : ∀ t ∈ kernelVersion h, IsShort t := hd.uname Utsname.release (by simp)
  refine (builds_kernelSection.of_find ?_).entries
  simp only [kernelLimits, List.forall_mem_cons]
  refine ⟨?_, ?_, by simp⟩
  · exact shortText_of_find (by simp [kernelSection]) (kernelType_iff.mpr (hd.uname _ (by simp)))
  · exact shortText_of_find (by simp [kernelSection]) hrelease

theorem Describable.hardwareModel (hd : Describable h) : ∀ t ∈ hardwareModel h, IsShort t := by
  intro t ht
  unfold Daemon.hardwareModel at ht
  split at ht
  case isTrue hpi =>
    rcases Option.or_eq_some_iff.mp ht with hmodel | ⟨hnone, hproduct⟩
    · exact (hd.pi hpi).model t hmodel
    · exact hd.product (.inr hnone) t hproduct
  case isFalse hpi => exact hd.product (.inl (by simpa using hpi)) t ht

theorem Describable.isIds (hp : PiDescribable h) : IsIds (.array ((compatibleIds h).map .text)) := by
  refine ⟨(compatibleIds h).map decoded, ?_, uniqueNames_decoded hp.length_le hp.nodup hp.ids⟩
  rw [List.map_map]
  congr 1
  refine List.map_congr_left fun t ht => ?_
  rw [Function.comp_apply, toUtf8_decoded (hp.ids t ht).1]

theorem Describable.entries_hardwareSection (hd : Describable h) :
    Entries hardwareLimits (hardwareSection h) := by
  refine (builds_hardwareSection.of_find ?_).entries
  simp only [hardwareLimits, List.forall_mem_cons]
  refine ⟨?_, ?_, ?_, ?_, by simp⟩
  · refine shortText_of_find find_manufacturer ?_
    unfold manufacturer
    split
    case isTrue =>
      rintro _ ⟨⟩
      decide +kernel
    case isFalse hpi => exact hd.vendor (by simpa using hpi)
  · exact shortText_of_find find_hardwareModel hd.hardwareModel
  · refine shortText_of_find find_boardRevision ?_
    unfold boardRevision
    split
    case isTrue hpi => exact (hd.pi hpi).revision
    case isFalse => simp
  · rw [find_compatibleIds]
    split
    case isTrue hpi =>
      rintro _ ⟨⟩
      exact Describable.isIds (hd.pi hpi)
    case isFalse => simp

theorem Describable.broadcomModel (hd : Describable h) : ∀ t ∈ broadcomModel h, IsShort t := by
  intro t ht
  unfold Daemon.broadcomModel at ht
  split at ht
  case isTrue hpi =>
    obtain ⟨id, hid, rfl⟩ := Option.map_eq_some_iff.mp ht
    exact isShort_broadcom (List.find?_some hid) ((hd.pi hpi).ids id (List.mem_of_find?_eq_some hid))
  case isFalse => cases ht

theorem Describable.cpuVendor (hd : Describable h) : ∀ t ∈ cpuVendor h, IsShort t := by
  intro t ht
  rcases Option.or_eq_some_iff.mp ht with hbroadcom | ⟨hnone, hvendor⟩
  · obtain ⟨_, -, rfl⟩ := Option.map_eq_some_iff.mp hbroadcom
    decide +kernel
  · exact hd.processor (Option.map_eq_none_iff.mp hnone) "vendor_id" (by simp) t hvendor

theorem Describable.cpuModel (hd : Describable h) : ∀ t ∈ cpuModel h, IsShort t := by
  intro t ht
  rcases Option.or_eq_some_iff.mp ht with hbroadcom | ⟨hnone, hmodel⟩
  · exact hd.broadcomModel t hbroadcom
  · exact hd.processor hnone "model name" (by simp) t hmodel

theorem Describable.entries_cpuInfoSection (hd : Describable h) :
    Entries cpuLimits (cpuInfoSection h) := by
  refine (builds_cpuInfoSection.of_find ?_).entries
  simp only [cpuLimits, List.forall_mem_cons]
  refine ⟨?_, ?_, ?_, ?_, ?_, by simp⟩
  · exact shortText_of_find find_architecture (architecture_iff.mpr (hd.uname _ (by simp)))
  · exact shortText_of_find find_cpuVendor hd.cpuVendor
  · exact shortText_of_find find_cpuModel hd.cpuModel
  · rw [find_logicalCpuCount]
    exact Option.forall_mem_map.mpr fun n hn => isCpuCount_countValue (logicalCpuCount_le n hn)
  · rw [find_physicalCoreCount]
    exact Option.forall_mem_map.mpr fun n hn =>
      (isCpuCount_countValue (physicalCoreCount_le n hn)).isCount

theorem Describable.entries_memoryInfo (hd : Describable h) :
    Entries memoryFields (memoryInfo h) := by
  refine (builds_memoryInfo.of_find (List.forall_mem_singleton.mpr ?_)).entries
  have hfind : (memoryInfo h).find (lit "total_bytes") = (totalBytes h).map .unsigned := by
    simp [memoryInfo]
  rw [hfind]
  exact Option.forall_mem_map.mpr fun n hn => ⟨n, rfl, hd.memory n hn⟩

/-- The sections of a description, as they are sent. -/
def sections (h : Host) : List (String × StdMap) :=
  [("host", hostSection h), ("os", osSection h), ("kernel", kernelSection h),
    ("hardware", hardwareSection h), ("cpu", cpuInfoSection h), ("memory", memoryInfo h)]

theorem find_systemInfoRoot : ∀ s ∈ sections h, s.2 ≠ [] →
    (systemInfoRoot h).find (lit s.1) = some (.map s.2) := by
  simp only [sections, List.forall_mem_cons]
  refine ⟨?_, ?_, ?_, ?_, ?_, ?_, by simp⟩ <;> intro hne <;>
    simp [systemInfoRoot, find_addObject, find_addObject_self hne]

theorem nodup_systemInfoRoot : ((systemInfoRoot h).map Prod.fst).Nodup :=
  StdMap.Ordered.nodup (ordered_addObject (ordered_addObject (ordered_addObject (ordered_addObject
    (ordered_addObject (ordered_addObject StdMap.ordered_nil))))))

theorem Describable.entries_systemInfoRoot (hd : Describable h) :
    Entries systemInfoLimits (systemInfoRoot h) := by
  refine Builds.entries (Builds.addObject (P := IsSection memoryFields) ?_
    (by simp [systemInfoLimits]) fun hne => ⟨_, rfl, hne, hd.entries_memoryInfo⟩)
  refine Builds.addObject (P := IsSection cpuLimits) ?_ (by simp [systemInfoLimits]) fun hne =>
    ⟨_, rfl, hne, hd.entries_cpuInfoSection⟩
  refine Builds.addObject (P := IsSection hardwareLimits) ?_ (by simp [systemInfoLimits]) fun hne =>
    ⟨_, rfl, hne, hd.entries_hardwareSection⟩
  refine Builds.addObject (P := IsSection kernelLimits) ?_ (by simp [systemInfoLimits]) fun hne =>
    ⟨_, rfl, hne, hd.entries_kernelSection⟩
  refine Builds.addObject (P := IsSection osLimits) ?_ (by simp [systemInfoLimits]) fun hne =>
    ⟨_, rfl, hne, hd.entries_osSection⟩
  exact (builds_nil _).addObject (P := IsSection hostLimits) (by simp [systemInfoLimits]) fun hne =>
    ⟨_, rfl, hne, hd.entries_hostSection⟩

theorem Describable.accepted (hd : Describable h) :
    systemInfo h = .map [] ∨ Accepted Codec.infoFromMap (systemInfo h) := by
  by_cases hroot : systemInfoRoot h = []
  case pos => exact .inl (by rw [systemInfo, hroot])
  case neg => exact .inr (accepted_systemInfo hd.entries_systemInfoRoot hroot)

section Accepted

variable (haccepted : systemInfo h = .map [] ∨ Accepted Codec.infoFromMap (systemInfo h))

include haccepted

/-- What is read of a section, empty or not, is taken. -/
theorem reads_section {key : String} {sub : StdMap} {α : Type} {parse : QCborMap → Option α}
    (hmem : (key, sub) ∈ sections h) (hn : (sub.map Prod.fst).Nodup)
    (hempty : (parse []).isSome)
    (hsection : ∀ root, Codec.InfoSections root →
      ((Codec.sectionOf root key).bind parse).isSome) :
    ∃ s, Reads sub s ∧ (parse s).isSome := by
  have hfind : sub ≠ [] → (systemInfoRoot h).find (lit key) = some (.map sub) :=
    find_systemInfoRoot (key, sub) hmem
  rcases haccepted with hroot | haccepted
  case inl =>
    have hsub : sub = [] := by
      by_contra hne
      rw [systemInfo, Value.map.injEq] at hroot
      rw [hroot] at hfind
      cases hfind hne
    subst hsub
    exact ⟨[], (fun _ _ hnone => nomatch hnone), hempty⟩
  case inr =>
    obtain ⟨info, hinfo⟩ := Option.isSome_iff_exists.mp haccepted
    obtain ⟨q, hq, hparse⟩ := Option.bind_eq_some_iff.mp hinfo
    obtain ⟨root, rfl, hreads⟩ := read_map nodup_systemInfoRoot hq
    refine hreads.subsection hfind hn (hsection root (Codec.infoFromMap_sections ?_))
    rw [hparse]
    rfl

theorem isShort_hostName : ∀ t ∈ hostName h, IsShort t := by
  have hreads : ∃ s, Reads (hostSection h) s ∧ (Codec.hostFromMap s).isSome :=
    reads_section haccepted (show ("host", _) ∈ sections h by simp [sections])
      builds_hostSection.ordered.nodup rfl fun _ => Codec.InfoSections.host
  obtain ⟨s, hs, hparse⟩ := hreads
  exact hs.shorts (by simp [hostSection]) (Codec.hostFromMap_texts hparse)

theorem isShort_osRelease :
    ∀ key ∈ ["ID", "VERSION_ID", "PRETTY_NAME"], ∀ t ∈ osRelease h key, IsShort t := by
  have hreads : ∃ s, Reads (osSection h) s ∧ (Codec.osFromMap s).isSome :=
    reads_section haccepted (show ("os", _) ∈ sections h by simp [sections])
      builds_osSection.ordered.nodup rfl fun _ => Codec.InfoSections.os
  obtain ⟨s, hs, hparse⟩ := hreads
  have htexts := Codec.osFromMap_texts hparse
  simp only [List.forall_mem_cons]
  refine ⟨?_, ?_, ?_, by simp⟩
  · exact hs.shorts (by simp [osSection]) (htexts "os_id" (by simp))
  · exact hs.shorts (by simp [osSection]) (htexts "os_version" (by simp))
  · exact hs.shorts (by simp [osSection]) (htexts "os_pretty_name" (by simp))

theorem reads_kernelSection :
    ∃ s, Reads (kernelSection h) s ∧ (Codec.kernelFromMap s).isSome :=
  reads_section haccepted (show ("kernel", _) ∈ sections h by simp [sections])
    builds_kernelSection.ordered.nodup rfl fun _ => Codec.InfoSections.kernel

theorem reads_hardwareSection :
    ∃ s, Reads (hardwareSection h) s ∧ (Codec.hardwareFromMap s).isSome :=
  reads_section haccepted (show ("hardware", _) ∈ sections h by simp [sections])
    builds_hardwareSection.ordered.nodup rfl fun _ => Codec.InfoSections.hardware

theorem reads_cpuInfoSection :
    ∃ s, Reads (cpuInfoSection h) s ∧ (Codec.cpuFromMap s).isSome :=
  reads_section haccepted (show ("cpu", _) ∈ sections h by simp [sections])
    builds_cpuInfoSection.ordered.nodup rfl fun _ => Codec.InfoSections.cpu

theorem isShort_uname : ∀ field ∈ [Utsname.sysname, Utsname.release, Utsname.machine],
    ∀ t ∈ unameField h field, IsShort t := by
  obtain ⟨kernel, hkernel, hkernelParse⟩ := reads_kernelSection haccepted
  obtain ⟨cpu, hcpu, hcpuParse⟩ := reads_cpuInfoSection haccepted
  have htexts := Codec.kernelFromMap_texts hkernelParse
  have htype : ∀ t ∈ kernelType h, IsShort t :=
    hkernel.shorts (by simp [kernelSection]) (htexts "kernel_type" (by simp))
  have hversion : ∀ t ∈ kernelVersion h, IsShort t :=
    hkernel.shorts (by simp [kernelSection]) (htexts "kernel_version" (by simp))
  have harchitecture : ∀ t ∈ architecture h, IsShort t :=
    hcpu.shorts find_architecture (Codec.cpuFromMap_texts hcpuParse "architecture" (by simp))
  simp only [List.forall_mem_cons]
  exact ⟨kernelType_iff.mp htype, hversion, architecture_iff.mp harchitecture, by simp⟩

theorem isShort_manufacturer : ∀ t ∈ manufacturer h, IsShort t := by
  obtain ⟨s, hs, hparse⟩ := reads_hardwareSection haccepted
  exact hs.shorts find_manufacturer ((Codec.hardwareFromMap_fields hparse).1 _ (by simp))

theorem isShort_hardwareModel : ∀ t ∈ hardwareModel h, IsShort t := by
  obtain ⟨s, hs, hparse⟩ := reads_hardwareSection haccepted
  exact hs.shorts find_hardwareModel ((Codec.hardwareFromMap_fields hparse).1 _ (by simp))

theorem piDescribable (hpi : isPi h = true) : PiDescribable h := by
  obtain ⟨s, hs, hparse⟩ := reads_hardwareSection haccepted
  obtain ⟨htexts, hids⟩ := Codec.hardwareFromMap_fields hparse
  have hfind : (hardwareSection h).find (lit "compatible_ids") =
      some (.array ((compatibleIds h).map .text)) := by rw [find_compatibleIds, if_pos hpi]
  obtain ⟨hlen, hnodup, hshort⟩ := hs.ids hfind hids
  have hmodel : ∀ t ∈ hardwareModel h, IsShort t := isShort_hardwareModel haccepted
  have hrevision : ∀ t ∈ boardRevision h, IsShort t :=
    hs.shorts find_boardRevision (htexts "board_revision" (by simp))
  rw [hardwareModel, if_pos hpi] at hmodel
  rw [boardRevision, if_pos hpi] at hrevision
  exact {
    length_le := hlen
    nodup := hnodup
    ids := hshort
    model := fun t ht => hmodel t (Option.or_eq_some_iff.mpr (.inl ht))
    revision := hrevision }

theorem isShort_processor (hnone : broadcomModel h = none) :
    ∀ key ∈ ["vendor_id", "model name"], ∀ t ∈ cpuInfo h key, IsShort t := by
  obtain ⟨s, hs, hparse⟩ := reads_cpuInfoSection haccepted
  have htexts := Codec.cpuFromMap_texts hparse
  have hvendor := hs.shorts find_cpuVendor (htexts "vendor" (by simp))
  have hmodel := hs.shorts find_cpuModel (htexts "model" (by simp))
  rw [cpuVendor, hnone] at hvendor
  rw [cpuModel, hnone] at hmodel
  simp only [List.forall_mem_cons]
  exact ⟨hvendor, hmodel, by simp⟩

theorem inRange_totalBytes : ∀ n ∈ totalBytes h, InRange n := by
  have hreads : ∃ s, Reads (memoryInfo h) s ∧ (Codec.memoryFromMap s).isSome :=
    reads_section haccepted (show ("memory", _) ∈ sections h by simp [sections])
      builds_memoryInfo.ordered.nodup rfl fun _ => Codec.InfoSections.memory
  obtain ⟨s, hs, hparse⟩ := hreads
  intro n hn
  have hfind : (memoryInfo h).find (lit "total_bytes") = some (.unsigned n) := by
    rw [Option.mem_def] at hn
    simp [memoryInfo, hn]
  exact hs.inRange hfind (Codec.memoryFromMap_integer hparse)

theorem isShort_vendor (hpi : isPi h = false) :
    ∀ t ∈ cleanFile h "/sys/class/dmi/id/sys_vendor", IsShort t := by
  have hvendor : ∀ t ∈ manufacturer h, IsShort t := isShort_manufacturer haccepted
  simpa [manufacturer, hpi] using hvendor

theorem isShort_product (hmodel : isPi h = false ∨ piModel h = none) :
    ∀ t ∈ cleanFile h "/sys/class/dmi/id/product_name", IsShort t := by
  have hshort : ∀ t ∈ hardwareModel h, IsShort t := isShort_hardwareModel haccepted
  have hgeneric : hardwareModel h = cleanFile h "/sys/class/dmi/id/product_name" := by
    rcases hmodel with hpi | hnone
    · simp [hardwareModel, hpi]
    · simp [hardwareModel, hnone]
  rwa [hgeneric] at hshort

theorem describable : Describable h where
  host := isShort_hostName haccepted
  uname := isShort_uname haccepted
  release := isShort_osRelease haccepted
  memory := inRange_totalBytes haccepted
  vendor := isShort_vendor haccepted
  product := isShort_product haccepted
  pi := piDescribable haccepted
  processor := isShort_processor haccepted

end Accepted

/-- A device tree that lists one identifier twice. -/
def twiceCompatible : Host where
  file path :=
    if path = lit "/sys/firmware/devicetree/base/compatible" then
      some (lit "raspberrypi,4-model-b" ++ [0] ++ lit "raspberrypi,4-model-b" ++ [0])
    else none

end Root

end RpiDashboard.Daemon
