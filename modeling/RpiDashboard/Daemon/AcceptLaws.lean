import RpiDashboard.Daemon.ReadLaws
import RpiDashboard.Numeric.ArithmeticLaws

/-! Trees within the limits of the wire format, and that the dashboard takes them. -/

namespace RpiDashboard.Daemon

open Numeric Qt Protocol

/-- The dashboard can read a section and takes it. -/
def Accepted {α : Type} (parse : QCborValue → Option α) (v : Value) : Prop :=
  (v.read.bind parse).isSome

abbrev Fields : Type := List (String × (Value → Prop))

def IsShortText (v : Value) : Prop := ∃ s : QString, v = .text (toUtf8 s) ∧ TextWithin 256 s
def IsCpuCount (v : Value) : Prop := ∃ n : UInt32, v = .unsigned n.toUInt64 ∧ n.toNat ≤ 256
def IsFinite (v : Value) : Prop := ∃ d, v = .number d ∧ d.isFinite = true
def IsShare (v : Value) : Prop := ∃ d, v = .number d ∧ d.IsRatio

def IsIds (v : Value) : Prop :=
  ∃ ids : List QString, v = .array (ids.map fun s => .text (toUtf8 s)) ∧ UniqueNames 32 ids

/-- A map with something in it. -/
def IsSection (fields : Fields) (v : Value) : Prop := ∃ m, v = .map m ∧ m ≠ [] ∧ Entries fields m

def nameAt (m : StdMap) (key : String) : QString := (textAt m key).getD ""

/-- A list of maps with different texts under one key. -/
def IsNamed (limit : Nat) (key : String) (P : StdMap → Prop) (v : Value) : Prop :=
  ∃ items : List StdMap, v = .array (items.map .map) ∧ (∀ m ∈ items, P m) ∧
    UniqueNames limit (items.map (nameAt · key))

def hostLimits : Fields := [("host_name", IsShortText)]

def osLimits : Fields :=
  [("os_family", IsShortText), ("os_id", IsShortText), ("os_version", IsShortText),
    ("os_pretty_name", IsShortText)]

def kernelLimits : Fields := [("kernel_type", IsShortText), ("kernel_version", IsShortText)]

def hardwareLimits : Fields :=
  [("manufacturer", IsShortText), ("model", IsShortText), ("board_revision", IsShortText),
    ("compatible_ids", IsIds)]

def cpuLimits : Fields :=
  [("architecture", IsShortText), ("vendor", IsShortText), ("model", IsShortText),
    ("logical_cpu_count", IsCpuCount), ("physical_core_count", IsCount)]

def systemInfoLimits : Fields :=
  [("host", IsSection hostLimits), ("os", IsSection osLimits), ("kernel", IsSection kernelLimits),
    ("hardware", IsSection hardwareLimits), ("cpu", IsSection cpuLimits),
    ("memory", IsSection memoryFields)]

def metricsCpuLimits : Fields := [("usage_ratio", IsShare), ("temperature_celsius", IsFinite)]

def IsMemory (m : StdMap) : Prop :=
  Entries metricsMemoryFields m ∧
    AtMost (unsignedAt m "available_bytes") (unsignedAt m "total_bytes") ∧
    AtMost (unsignedAt m "swap_available_bytes") (unsignedAt m "swap_total_bytes")

def systemLimits : Fields :=
  [("uptime_seconds", IsFinite), ("load_average_1m", IsFinite), ("load_average_5m", IsFinite),
    ("load_average_15m", IsFinite)]

def volumeLimits : Fields :=
  [("mount_point", IsShortText), ("device_name", IsShortText), ("primary", IsFlag),
    ("read_only", IsFlag), ("total_bytes", IsUnsigned), ("available_bytes", IsUnsigned)]

def IsVolume (m : StdMap) : Prop :=
  Entries volumeLimits m ∧
    (∀ key ∈ ["mount_point", "device_name", "primary", "read_only"], (m.find (lit key)).isSome) ∧
    AtMost (unsignedAt m "available_bytes") (unsignedAt m "total_bytes")

def interfaceLimits : Fields :=
  [("name", IsShortText), ("rx_bytes", IsUnsigned), ("tx_bytes", IsUnsigned),
    ("rx_bytes_per_second", IsFinite), ("tx_bytes_per_second", IsFinite)]

def IsInterface (m : StdMap) : Prop :=
  Entries interfaceLimits m ∧ ∀ key ∈ ["name"], (m.find (lit key)).isSome

def gpuLimits : Fields :=
  [("name", IsShortText), ("usage_ratio", IsShare), ("core_clock_hz", IsUnsigned),
    ("temperature_celsius", IsFinite)]

def IsGpu (m : StdMap) : Prop :=
  Entries gpuLimits m ∧ ∀ key ∈ ["name"], (m.find (lit key)).isSome

def metricsLimits : Fields :=
  [("cpu", IsMap metricsCpuLimits), ("memory", fun v => ∃ m, v = .map m ∧ IsMemory m),
    ("system", IsMap systemLimits),
    ("storage_volumes", IsNamed 64 "mount_point" IsVolume),
    ("network_interfaces", IsNamed 64 "name" IsInterface), ("gpus", IsNamed 16 "name" IsGpu)]

section Texts

variable {t : StdString} {m : StdMap} {key : String}

/-- The bytes are UTF-8, to the letter: no overlong forms, no surrogates. -/
def IsUtf8 (t : StdString) : Prop := (fromUtf8? t).isSome
  deriving Decidable

def decoded (t : StdString) : QString := (fromUtf8? t).getD ""

theorem toUtf8_decoded (h : IsUtf8 t) : toUtf8 (decoded t) = t := by
  obtain ⟨s, hs⟩ := Option.isSome_iff_exists.mp h
  rw [decoded, hs, Option.getD_some, fromUtf8?_eq_some.mp hs]

theorem isUtf8_toUtf8 (s : QString) : IsUtf8 (toUtf8 s) := by simp [IsUtf8]

/-- A text that the wire format allows. -/
def IsShort (t : StdString) : Prop := IsUtf8 t ∧ t ≠ [] ∧ t.length ≤ 256
  deriving Decidable

theorem IsShort.textWithin (h : IsShort t) : TextWithin 256 (decoded t) := by
  obtain ⟨hutf8, hne, hlen⟩ := h
  have ht := toUtf8_decoded hutf8
  refine ⟨fun hempty => hne ?_, ht.symm ▸ hlen⟩
  rw [← ht, hempty]
  rfl

theorem IsShort.text (h : IsShort t) : IsShortText (.text t) :=
  ⟨decoded t, by rw [toUtf8_decoded h.1], h.textWithin⟩

theorem IsShortText.isShort (h : IsShortText (.text t)) : IsShort t := by
  obtain ⟨s, hs, hne, hlen⟩ := h
  cases hs
  refine ⟨isUtf8_toUtf8 s, fun hempty => hne (toUtf8_injective ?_), hlen⟩
  exact hempty

theorem uniqueNames_decoded {limit : Nat} {l : List StdString} (hl : l.length ≤ limit)
    (hn : l.Nodup) (hs : ∀ t ∈ l, IsShort t) : UniqueNames limit (l.map decoded) where
  length_le := by rwa [List.length_map]
  nodup := by
    refine hn.map_on fun t ht u hu heq => ?_
    rw [← toUtf8_decoded (hs t ht).1, heq, toUtf8_decoded (hs u hu).1]
  texts := List.forall_mem_map.mpr fun t ht => (hs t ht).textWithin

/-- The bytes of the text under a key. -/
def bytesAt (m : StdMap) (key : String) : StdString :=
  match m.find (lit key) with
  | some (.text t) => t
  | _ => []

theorem bytesAt_of_find (h : m.find (lit key) = some (.text t)) : bytesAt m key = t := by
  rw [bytesAt, h]

theorem nameAt_of_find (h : m.find (lit key) = some (.text t)) : nameAt m key = decoded t := by
  simp [nameAt, textAt, h, Value.text?, decoded]

/-- The texts under a key of the maps of a list, as they are read. -/
theorem map_bytesAt_of_reads {items : List StdMap} {subs : List QCborMap} {names : List QString}
    (h : List.Forall₂ Reads items subs)
    (ht : ∀ m ∈ items, ∃ t, m.find (lit key) = some (.text t))
    (hv : subs.map (QCborMap.value · key) = names.map .string) :
    items.map (bytesAt · key) = names.map toUtf8 := by
  induction h generalizing names with
  | nil =>
    rw [List.map_nil, eq_comm, List.map_eq_nil_iff] at hv
    rw [hv]
    rfl
  | @cons m sub items subs hm _ ih =>
    obtain ⟨⟨t, hfind⟩, hitems⟩ := List.forall_mem_cons.mp ht
    obtain ⟨s, hs, rfl⟩ := hm.text hfind
    cases names with
    | nil => cases hv
    | cons name names =>
      rw [List.map_cons, List.map_cons, hs, List.cons.injEq, QCborValue.string.injEq] at hv
      rw [List.map_cons, List.map_cons, bytesAt_of_find hfind, hv.1, ih hitems hv.2]

/-- A list of maps with different short texts under a key. -/
theorem isNamed_of_nodup {limit : Nat} {P : StdMap → Prop} {items : List StdMap}
    (hP : ∀ m ∈ items, P m) (hl : items.length ≤ limit) (hn : (items.map (bytesAt · key)).Nodup)
    (hs : ∀ m ∈ items, ∃ t, m.find (lit key) = some (.text t) ∧ IsShort t) :
    IsNamed limit key P (.array (items.map .map)) := by
  refine ⟨items, rfl, hP, ?_⟩
  have hnames : items.map (nameAt · key) = (items.map (bytesAt · key)).map decoded := by
    rw [List.map_map]
    refine List.map_congr_left fun m hm => ?_
    obtain ⟨t, ht, -⟩ := hs m hm
    rw [nameAt_of_find ht, Function.comp_apply, bytesAt_of_find ht]
  rw [hnames]
  refine uniqueNames_decoded (by rwa [List.length_map]) hn (List.forall_mem_map.mpr fun m hm => ?_)
  obtain ⟨t, ht, hshort⟩ := hs m hm
  rwa [bytesAt_of_find ht]

end Texts

section Weaken

variable {v : Value} {m : StdMap} {strong weak : Fields}

/-- Every field of the first list is one of the second, of a wider kind. -/
def Weaker (strong weak : Fields) : Prop :=
  ∀ f ∈ strong, ∃ g ∈ weak, g.1 = f.1 ∧ ∀ v, f.2 v → g.2 v

theorem Entries.weaken (h : Entries strong m) (hw : Weaker strong weak) : Entries weak m := by
  refine ⟨h.nodup, fun e he => ?_⟩
  obtain ⟨f, hf, hkey, hv⟩ := h.field e he
  obtain ⟨g, hg, hname, hkind⟩ := hw f hf
  exact ⟨g, hg, hname ▸ hkey, hkind e.2 hv⟩

theorem IsMap.weaken (h : IsMap strong v) (hw : Weaker strong weak) : IsMap weak v := by
  obtain ⟨m, rfl, hm⟩ := h
  exact ⟨m, rfl, hm.weaken hw⟩

theorem IsSection.isMap (h : IsSection strong v) (hw : Weaker strong weak) : IsMap weak v := by
  obtain ⟨m, rfl, -, hm⟩ := h
  exact ⟨m, rfl, hm.weaken hw⟩

theorem IsNamed.isList {limit : Nat} {key : String} {P : StdMap → Prop} {required : List String}
    (h : IsNamed limit key P v)
    (hP : ∀ m, P m → Entries weak m ∧ ∀ key ∈ required, (m.find (lit key)).isSome) :
    IsList (IsEntry required weak) v := by
  obtain ⟨items, rfl, hitems, -⟩ := h
  refine ⟨items.map .map, rfl, fun x hx => ?_⟩
  obtain ⟨m, hm, rfl⟩ := List.mem_map.mp hx
  exact ⟨m, rfl, hP m (hitems m hm)⟩

theorem IsShortText.isText (v : Value) (h : IsShortText v) : IsText v :=
  let ⟨s, hs, _⟩ := h
  ⟨s, hs⟩

theorem IsCpuCount.isCount (v : Value) (h : IsCpuCount v) : IsCount v :=
  let ⟨n, hn, _⟩ := h
  ⟨n, hn⟩

theorem IsFinite.isNumber (v : Value) (h : IsFinite v) : IsNumber v :=
  let ⟨d, hd, _⟩ := h
  ⟨d, hd⟩

theorem IsShare.isNumber (v : Value) (h : IsShare v) : IsNumber v :=
  let ⟨d, hd, _⟩ := h
  ⟨d, hd⟩

theorem IsIds.isList (v : Value) (h : IsIds v) : IsList IsText v := by
  obtain ⟨ids, rfl, -⟩ := h
  refine ⟨_, rfl, fun x hx => ?_⟩
  obtain ⟨s, -, rfl⟩ := List.mem_map.mp hx
  exact ⟨s, rfl⟩

theorem weaker_refl (fields : Fields) : Weaker fields fields := fun f hf => ⟨f, hf, rfl, fun _ => id⟩

theorem Weaker.cons {key : String} {P Q : Value → Prop} (h : ∀ v, P v → Q v)
    (hw : Weaker strong weak) : Weaker ((key, P) :: strong) ((key, Q) :: weak) := by
  intro f hf
  rcases List.mem_cons.mp hf with rfl | hf
  · exact ⟨(key, Q), List.mem_cons_self, rfl, h⟩
  · obtain ⟨g, hg, hfg⟩ := hw f hf
    exact ⟨g, List.mem_cons_of_mem _ hg, hfg⟩

theorem hostLimits_weaker : Weaker hostLimits hostFields :=
  .cons IsShortText.isText <| weaker_refl _

theorem osLimits_weaker : Weaker osLimits osFields :=
  .cons IsShortText.isText <| .cons IsShortText.isText <| .cons IsShortText.isText <|
    .cons IsShortText.isText <| weaker_refl _

theorem kernelLimits_weaker : Weaker kernelLimits kernelFields :=
  .cons IsShortText.isText <| .cons IsShortText.isText <| weaker_refl _

theorem hardwareLimits_weaker : Weaker hardwareLimits hardwareFields :=
  .cons IsShortText.isText <| .cons IsShortText.isText <| .cons IsShortText.isText <|
    .cons IsIds.isList <| weaker_refl _

theorem cpuLimits_weaker : Weaker cpuLimits cpuFields :=
  .cons IsShortText.isText <| .cons IsShortText.isText <| .cons IsShortText.isText <|
    .cons IsCpuCount.isCount <| weaker_refl _

theorem systemInfoLimits_weaker : Weaker systemInfoLimits systemInfoFields :=
  .cons (fun _ h => h.isMap hostLimits_weaker) <| .cons (fun _ h => h.isMap osLimits_weaker) <|
    .cons (fun _ h => h.isMap kernelLimits_weaker) <|
    .cons (fun _ h => h.isMap hardwareLimits_weaker) <|
    .cons (fun _ h => h.isMap cpuLimits_weaker) <|
    .cons (fun _ h => h.isMap (weaker_refl _)) <| weaker_refl _

theorem metricsCpuLimits_weaker : Weaker metricsCpuLimits metricsCpuFields :=
  .cons IsShare.isNumber <| .cons IsFinite.isNumber <| weaker_refl _

theorem systemLimits_weaker : Weaker systemLimits systemFields :=
  .cons IsFinite.isNumber <| .cons IsFinite.isNumber <| .cons IsFinite.isNumber <|
    .cons IsFinite.isNumber <| weaker_refl _

theorem volumeLimits_weaker : Weaker volumeLimits storageVolumeFields :=
  .cons IsShortText.isText <| .cons IsShortText.isText <| weaker_refl _

theorem interfaceLimits_weaker : Weaker interfaceLimits networkInterfaceFields :=
  .cons IsShortText.isText <| .cons (fun _ => id) <| .cons (fun _ => id) <|
    .cons IsFinite.isNumber <| .cons IsFinite.isNumber <| weaker_refl _

theorem gpuLimits_weaker : Weaker gpuLimits gpuFields :=
  .cons IsShortText.isText <| .cons IsShare.isNumber <| .cons (fun _ => id) <|
    .cons IsFinite.isNumber <| weaker_refl _

theorem metricsLimits_weaker : Weaker metricsLimits metricsFields :=
  .cons (fun _ h => h.weaken metricsCpuLimits_weaker) <|
    .cons (fun _ ⟨m, hv, hm⟩ => ⟨m, hv, hm.1⟩) <|
    .cons (fun _ h => h.weaken systemLimits_weaker) <|
    .cons (fun _ h => h.isList fun _ hm => ⟨hm.1.weaken volumeLimits_weaker, hm.2.1⟩) <|
    .cons (fun _ h => h.isList fun _ hm => ⟨hm.1.weaken interfaceLimits_weaker, hm.2⟩) <|
    .cons (fun _ h => h.isList fun _ hm => ⟨hm.1.weaken gpuLimits_weaker, hm.2⟩) <| weaker_refl _

end Weaken

section Leaves

variable {m : StdMap} {key : String} {fields : Fields} {P : Value → Prop}

theorem Entries.forall_leaf (h : Entries fields m) (hf : FieldOf fields key P) {α : Type}
    {get : Value → Option α} {Q : α → Prop} (hP : ∀ v, P v → ∀ a ∈ get v, Q a) :
    ∀ a ∈ (m.find (lit key)).bind get, Q a := by
  intro a ha
  obtain ⟨v, hv, hget⟩ := Option.bind_eq_some_iff.mp ha
  exact hP v (h.kind hf hv) a hget

theorem Entries.optionalText (h : Entries fields m) (hf : FieldOf fields key IsShortText) :
    OptionalText (textAt m key) := by
  refine h.forall_leaf hf ?_
  rintro _ ⟨s, rfl, hs⟩ _ ha
  simp only [Value.text?, fromUtf8?_toUtf8, Option.mem_def, Option.some.injEq] at ha
  exact ha ▸ hs

theorem Entries.optionalInteger (h : Entries fields m) (hf : FieldOf fields key IsUnsigned) :
    OptionalInteger (unsignedAt m key) := by
  refine h.forall_leaf hf ?_
  rintro _ ⟨n, rfl, hn⟩ _ ⟨⟩
  exact hn

theorem Entries.optionalNumber (h : Entries fields m) (hf : FieldOf fields key IsFinite) :
    OptionalNumber (numberAt m key) := by
  refine h.forall_leaf hf ?_
  rintro _ ⟨d, rfl, hd⟩ _ ⟨⟩
  exact hd

theorem Entries.optionalRatio (h : Entries fields m) (hf : FieldOf fields key IsShare) :
    OptionalRatio (numberAt m key) := by
  refine h.forall_leaf hf ?_
  rintro _ ⟨d, rfl, hd⟩ _ ⟨⟩
  exact hd

theorem Entries.cpuCount (h : Entries fields m) (hf : FieldOf fields key IsCpuCount) :
    ∀ n ∈ countAt m key, n.toNat ≤ 256 := by
  refine h.forall_leaf hf ?_
  rintro _ ⟨n, rfl, hn⟩ _ ha
  simp only [Value.count?, Value.unsigned?, Option.map_some, UInt32.toUInt32_toUInt64,
    Option.mem_def, Option.some.injEq] at ha
  exact ha ▸ hn

theorem Entries.ids (h : Entries fields m) (hf : FieldOf fields key IsIds) :
    ∀ ids ∈ textsAt m key, UniqueNames 32 ids := by
  have harray : ∀ xs ∈ arrayAt m key, UniqueNames 32 (xs.filterMap Value.text?) := by
    refine h.forall_leaf hf ?_
    rintro _ ⟨ids, rfl, hids⟩ _ ⟨⟩
    rw [List.filterMap_map]
    simpa [Function.comp_def, Value.text?] using hids
  intro ids hids
  obtain ⟨xs, hxs, rfl⟩ := Option.map_eq_some_iff.mp hids
  exact harray xs hxs

/-- A section that is not there counts as one with nothing in it. -/
theorem Entries.mapAt {Q : StdMap → Prop} (h : Entries fields m) (hf : FieldOf fields key P)
    (hP : ∀ v, P v → ∃ s, v = .map s ∧ Q s) (hnil : Q []) : Q (mapAt m key) := by
  rw [Daemon.mapAt]
  cases hv : m.find (lit key) with
  | none => exact hnil
  | some v =>
    obtain ⟨s, rfl, hs⟩ := hP v (h.kind hf hv)
    exact hs

theorem IsSection.entries (v : Value) (h : IsSection fields v) : ∃ s, v = .map s ∧ Entries fields s :=
  let ⟨s, hv, _, hs⟩ := h
  ⟨s, hv, hs⟩

theorem Entries.mapsAt {limit : Nat} {name : String} {Q : StdMap → Prop} (h : Entries fields m)
    (hf : FieldOf fields key (IsNamed limit name Q)) :
    (∀ s ∈ mapsAt m key, Q s) ∧ UniqueNames limit ((mapsAt m key).map (nameAt · name)) := by
  rw [Daemon.mapsAt, arrayAt]
  cases hv : m.find (lit key) with
  | none => exact ⟨by simp, ⟨Nat.zero_le _, List.nodup_nil, by simp⟩⟩
  | some v =>
    obtain ⟨items, rfl, hitems, hnames⟩ := h.kind hf hv
    have hmaps : (items.map Value.map).filterMap Value.map? = items := by
      rw [List.filterMap_map]
      exact List.filterMap_some
    simp only [Option.bind_some, Value.array?, Option.getD_some, hmaps]
    exact ⟨hitems, hnames⟩

/-- A map without any of its fields has nothing in it. -/
theorem Entries.eq_nil (h : Entries fields m) (hf : ∀ f ∈ fields, m.find (lit f.1) = none) :
    m = [] := by
  cases m with
  | nil => rfl
  | cons e m =>
    obtain ⟨f, hmem, hkey, -⟩ := h.field e List.mem_cons_self
    have hnone := hf f hmem
    rw [StdMap.find_cons, if_pos hkey] at hnone
    cases hnone

theorem Entries.find_eq_none (h : Entries fields m) (hf : FieldOf fields key P) {α : Type}
    {get : Value → Option α} (hP : ∀ v, P v → (get v).isSome)
    (hnone : (m.find (lit key)).bind get = none) : m.find (lit key) = none := by
  cases hv : m.find (lit key) with
  | none => rfl
  | some v =>
    have hsome := hP v (h.kind hf hv)
    rw [hv, Option.bind_some] at hnone
    simp [hnone] at hsome

theorem Entries.text_none (h : Entries fields m) (hf : FieldOf fields key IsShortText)
    (hnone : textAt m key = none) : m.find (lit key) = none := by
  refine h.find_eq_none hf ?_ hnone
  rintro _ ⟨s, rfl, -⟩
  simp [Value.text?]

theorem Entries.section_none (h : Entries fields m) {sub : Fields}
    (hf : FieldOf fields key (IsSection sub)) {α : Type} {of : StdMap → α} {empty : α}
    (hof : ∀ s, Entries sub s → s ≠ [] → of s ≠ empty) (heq : of (Daemon.mapAt m key) = empty) :
    m.find (lit key) = none := by
  cases hv : m.find (lit key) with
  | none => rfl
  | some v =>
    obtain ⟨s, rfl, hne, hs⟩ := h.kind hf hv
    have hmap : Daemon.mapAt m key = s := by simp [Daemon.mapAt, hv, Value.map?]
    exact absurd (hmap ▸ heq) (hof s hs hne)

end Leaves

section SystemInfo

variable {m : StdMap}

theorem osOf_valid (h : Entries osLimits m) : (osOf m).Valid where
  osFamily := h.optionalText (by simp [FieldOf, osLimits])
  osId := h.optionalText (by simp [FieldOf, osLimits])
  osVersion := h.optionalText (by simp [FieldOf, osLimits])
  osPrettyName := h.optionalText (by simp [FieldOf, osLimits])

theorem kernelOf_valid (h : Entries kernelLimits m) : (kernelOf m).Valid where
  kernelType := h.optionalText (by simp [FieldOf, kernelLimits])
  kernelVersion := h.optionalText (by simp [FieldOf, kernelLimits])

theorem hardwareOf_valid (h : Entries hardwareLimits m) : (hardwareOf m).Valid where
  manufacturer := h.optionalText (by simp [FieldOf, hardwareLimits])
  model := h.optionalText (by simp [FieldOf, hardwareLimits])
  boardRevision := h.optionalText (by simp [FieldOf, hardwareLimits])
  compatibleIds := h.ids (by simp [FieldOf, hardwareLimits])

theorem cpuOf_valid (h : Entries cpuLimits m) : (cpuOf m).Valid where
  architecture := h.optionalText (by simp [FieldOf, cpuLimits])
  vendor := h.optionalText (by simp [FieldOf, cpuLimits])
  model := h.optionalText (by simp [FieldOf, cpuLimits])
  logicalCpuCount := h.cpuCount (by simp [FieldOf, cpuLimits])

theorem hostOf_ne (h : Entries hostLimits m) (hm : m ≠ []) : hostOf m ≠ {} := by
  intro heq
  rw [hostOf, SystemInfo.Host.mk.injEq] at heq
  refine hm (h.eq_nil (List.forall_mem_singleton.mpr ?_))
  exact h.text_none (by simp [FieldOf, hostLimits]) heq

theorem osOf_ne (h : Entries osLimits m) (hm : m ≠ []) : osOf m ≠ {} := by
  intro heq
  rw [osOf, SystemInfo.OperatingSystem.mk.injEq] at heq
  obtain ⟨family, id, version, name⟩ := heq
  refine hm (h.eq_nil ?_)
  simp only [osLimits, List.forall_mem_cons]
  exact ⟨h.text_none (by simp [FieldOf, osLimits]) family,
    h.text_none (by simp [FieldOf, osLimits]) id,
    h.text_none (by simp [FieldOf, osLimits]) version,
    h.text_none (by simp [FieldOf, osLimits]) name, by simp⟩

theorem kernelOf_ne (h : Entries kernelLimits m) (hm : m ≠ []) : kernelOf m ≠ {} := by
  intro heq
  rw [kernelOf, SystemInfo.Kernel.mk.injEq] at heq
  obtain ⟨type, version⟩ := heq
  refine hm (h.eq_nil ?_)
  simp only [kernelLimits, List.forall_mem_cons]
  exact ⟨h.text_none (by simp [FieldOf, kernelLimits]) type,
    h.text_none (by simp [FieldOf, kernelLimits]) version, by simp⟩

theorem hardwareOf_ne (h : Entries hardwareLimits m) (hm : m ≠ []) : hardwareOf m ≠ {} := by
  intro heq
  rw [hardwareOf, SystemInfo.Hardware.mk.injEq] at heq
  obtain ⟨manufacturer, model, revision, ids⟩ := heq
  have hids : m.find (lit "compatible_ids") = none := by
    refine h.find_eq_none (P := IsIds) (by simp [FieldOf, hardwareLimits]) ?_
      (Option.map_eq_none_iff.mp ids)
    rintro _ ⟨ids, rfl, -⟩
    rfl
  refine hm (h.eq_nil ?_)
  simp only [hardwareLimits, List.forall_mem_cons]
  exact ⟨h.text_none (by simp [FieldOf, hardwareLimits]) manufacturer,
    h.text_none (by simp [FieldOf, hardwareLimits]) model,
    h.text_none (by simp [FieldOf, hardwareLimits]) revision, hids, by simp⟩

theorem cpuOf_ne (h : Entries cpuLimits m) (hm : m ≠ []) : cpuOf m ≠ {} := by
  intro heq
  rw [cpuOf, SystemInfo.Cpu.mk.injEq] at heq
  obtain ⟨architecture, vendor, model, logical, physical⟩ := heq
  have hcount : ∀ n : UInt32, (Value.unsigned n.toUInt64).count?.isSome := fun _ => rfl
  have hlogical : m.find (lit "logical_cpu_count") = none := by
    refine h.find_eq_none (P := IsCpuCount) (by simp [FieldOf, cpuLimits]) ?_ logical
    rintro _ ⟨n, rfl, -⟩
    exact hcount n
  have hphysical : m.find (lit "physical_core_count") = none := by
    refine h.find_eq_none (P := IsCount) (by simp [FieldOf, cpuLimits]) ?_ physical
    rintro _ ⟨n, rfl⟩
    exact hcount n
  refine hm (h.eq_nil ?_)
  simp only [cpuLimits, List.forall_mem_cons]
  exact ⟨h.text_none (by simp [FieldOf, cpuLimits]) architecture,
    h.text_none (by simp [FieldOf, cpuLimits]) vendor,
    h.text_none (by simp [FieldOf, cpuLimits]) model, hlogical, hphysical, by simp⟩

theorem memoryOf_ne (h : Entries memoryFields m) (hm : m ≠ []) : memoryOf m ≠ {} := by
  intro heq
  rw [memoryOf, SystemInfo.Memory.mk.injEq] at heq
  refine hm (h.eq_nil (List.forall_mem_singleton.mpr ?_))
  refine h.find_eq_none (P := IsUnsigned) (by simp [FieldOf, memoryFields]) ?_ heq
  rintro _ ⟨n, rfl, -⟩
  rfl

theorem eq_empty_of_hasAnyValue {info : SystemInfo} (h : info.hasAnyValue = false) : info = {} := by
  obtain ⟨⟨_⟩, ⟨_, _, _, _⟩, ⟨_, _⟩, ⟨_, _, _, _⟩, ⟨_, _, _, _, _⟩, ⟨_⟩⟩ := info
  simp only [SystemInfo.hasAnyValue, Bool.or_eq_false_iff, Option.isSome_eq_false_iff,
    Option.isNone_iff_eq_none] at h
  simp [h]

theorem systemInfoOf_hasAnyValue (h : Entries systemInfoLimits m) (hm : m ≠ []) :
    (systemInfoOf (.map m)).hasAnyValue = true := by
  rw [← Bool.not_eq_false]
  intro hnone
  have heq := eq_empty_of_hasAnyValue hnone
  rw [systemInfoOf, SystemInfo.mk.injEq] at heq
  obtain ⟨host, os, kernel, hardware, cpu, memory⟩ := heq
  refine hm (h.eq_nil ?_)
  simp only [systemInfoLimits, List.forall_mem_cons]
  exact ⟨h.section_none (by simp [FieldOf, systemInfoLimits]) (fun _ => hostOf_ne) host,
    h.section_none (by simp [FieldOf, systemInfoLimits]) (fun _ => osOf_ne) os,
    h.section_none (by simp [FieldOf, systemInfoLimits]) (fun _ => kernelOf_ne) kernel,
    h.section_none (by simp [FieldOf, systemInfoLimits]) (fun _ => hardwareOf_ne) hardware,
    h.section_none (by simp [FieldOf, systemInfoLimits]) (fun _ => cpuOf_ne) cpu,
    h.section_none (by simp [FieldOf, systemInfoLimits]) (fun _ => memoryOf_ne) memory, by simp⟩

theorem systemInfoOf_valid (h : Entries systemInfoLimits m) (hm : m ≠ []) :
    (systemInfoOf (.map m)).Valid := by
  have hhost : Entries hostLimits (mapAt m "host") :=
    h.mapAt (by simp [FieldOf, systemInfoLimits]) IsSection.entries (entries_nil _)
  have hos : Entries osLimits (mapAt m "os") :=
    h.mapAt (by simp [FieldOf, systemInfoLimits]) IsSection.entries (entries_nil _)
  have hkernel : Entries kernelLimits (mapAt m "kernel") :=
    h.mapAt (by simp [FieldOf, systemInfoLimits]) IsSection.entries (entries_nil _)
  have hhardware : Entries hardwareLimits (mapAt m "hardware") :=
    h.mapAt (by simp [FieldOf, systemInfoLimits]) IsSection.entries (entries_nil _)
  have hcpu : Entries cpuLimits (mapAt m "cpu") :=
    h.mapAt (by simp [FieldOf, systemInfoLimits]) IsSection.entries (entries_nil _)
  have hmemory : Entries memoryFields (mapAt m "memory") :=
    h.mapAt (by simp [FieldOf, systemInfoLimits]) IsSection.entries (entries_nil _)
  exact {
    hostName := hhost.optionalText (by simp [FieldOf, hostLimits])
    os := osOf_valid hos
    kernel := kernelOf_valid hkernel
    hardware := hardwareOf_valid hhardware
    cpu := cpuOf_valid hcpu
    totalBytes := hmemory.optionalInteger (by simp [FieldOf, memoryFields])
    hasAnyValue := systemInfoOf_hasAnyValue h hm }

/-- A description within the limits is taken. -/
theorem accepted_systemInfo (h : Entries systemInfoLimits m) (hm : m ≠ []) :
    Accepted Codec.infoFromMap (.map m) := by
  have hweak : IsSystemInfo (.map m) := ⟨m, rfl, h.weaken systemInfoLimits_weaker⟩
  have hread : (Value.map m).read = some (.map (toQtMap m)) := by
    rw [Value.Fits.read (hweak.fits : (Value.map m).Fits 4), toQt_map]
  rw [Accepted, hread, Option.bind_some,
    Codec.infoFromMap_of_carriedBy (systemInfoOf_carriedBy (h.weaken systemInfoLimits_weaker))
      (systemInfoOf_valid h hm)]
  rfl

end SystemInfo

section Metrics

variable {m : StdMap}

theorem metricsCpuOf_valid (h : Entries metricsCpuLimits m) : (metricsCpuOf m).Valid where
  usageRatio := h.optionalRatio (by simp [FieldOf, metricsCpuLimits])
  temperatureCelsius := h.optionalNumber (by simp [FieldOf, metricsCpuLimits])
  names := ⟨Nat.zero_le _, List.nodup_nil, by simp [metricsCpuOf]⟩
  logicalCpus := by simp [metricsCpuOf]

theorem metricsMemoryOf_valid (h : IsMemory m) : (metricsMemoryOf m).Valid where
  totalBytes := h.1.optionalInteger (by simp [FieldOf, metricsMemoryFields])
  availableBytes := h.1.optionalInteger (by simp [FieldOf, metricsMemoryFields])
  swapTotalBytes := h.1.optionalInteger (by simp [FieldOf, metricsMemoryFields])
  swapAvailableBytes := h.1.optionalInteger (by simp [FieldOf, metricsMemoryFields])
  available_le := h.2.1
  swapAvailable_le := h.2.2

theorem systemOf_valid (h : Entries systemLimits m) : (systemOf m).Valid where
  uptimeSeconds := h.optionalNumber (by simp [FieldOf, systemLimits])
  loadAverage1m := h.optionalNumber (by simp [FieldOf, systemLimits])
  loadAverage5m := h.optionalNumber (by simp [FieldOf, systemLimits])
  loadAverage15m := h.optionalNumber (by simp [FieldOf, systemLimits])

theorem storageVolumeOf_valid (h : IsVolume m) : (storageVolumeOf m).Valid where
  deviceName := by
    obtain ⟨v, hv⟩ := Option.isSome_iff_exists.mp (h.2.1 "device_name" (by simp))
    obtain ⟨s, rfl, hs⟩ := h.1.kind (P := IsShortText) (by simp [FieldOf, volumeLimits]) hv
    simpa [storageVolumeOf, textAt, hv, Value.text?] using hs
  totalBytes := h.1.optionalInteger (by simp [FieldOf, volumeLimits])
  availableBytes := h.1.optionalInteger (by simp [FieldOf, volumeLimits])
  available_le := h.2.2

theorem networkInterfaceOf_valid (h : IsInterface m) : (networkInterfaceOf m).Valid where
  rxBytes := h.1.optionalInteger (by simp [FieldOf, interfaceLimits])
  txBytes := h.1.optionalInteger (by simp [FieldOf, interfaceLimits])
  rxBytesPerSecond := h.1.optionalNumber (by simp [FieldOf, interfaceLimits])
  txBytesPerSecond := h.1.optionalNumber (by simp [FieldOf, interfaceLimits])

theorem gpuOf_valid (h : IsGpu m) : (gpuOf m).Valid where
  usageRatio := h.1.optionalRatio (by simp [FieldOf, gpuLimits])
  memoryTotalBytes := by simp [OptionalInteger, gpuOf]
  memoryUsedBytes := by simp [OptionalInteger, gpuOf]
  coreClockHz := h.1.optionalInteger (by simp [FieldOf, gpuLimits])
  memoryClockHz := by simp [OptionalInteger, gpuOf]
  temperatureCelsius := h.1.optionalNumber (by simp [FieldOf, gpuLimits])
  used_le := by simp [AtMost, gpuOf]

theorem isMemory_nil : IsMemory [] :=
  ⟨entries_nil _, by simp [AtMost, unsignedAt], by simp [AtMost, unsignedAt]⟩

theorem metricsOf_valid (h : Entries metricsLimits m) : (metricsOf (.map m)).Valid := by
  obtain ⟨hvolumes, volumeNames⟩ : (∀ s ∈ mapsAt m "storage_volumes", IsVolume s) ∧
      UniqueNames 64 ((mapsAt m "storage_volumes").map (nameAt · "mount_point")) :=
    h.mapsAt (by simp [FieldOf, metricsLimits])
  obtain ⟨hinterfaces, interfaceNames⟩ : (∀ s ∈ mapsAt m "network_interfaces", IsInterface s) ∧
      UniqueNames 64 ((mapsAt m "network_interfaces").map (nameAt · "name")) :=
    h.mapsAt (by simp [FieldOf, metricsLimits])
  obtain ⟨hgpus, gpuNames⟩ : (∀ s ∈ mapsAt m "gpus", IsGpu s) ∧
      UniqueNames 16 ((mapsAt m "gpus").map (nameAt · "name")) :=
    h.mapsAt (by simp [FieldOf, metricsLimits])
  have hcpu : Entries metricsCpuLimits (mapAt m "cpu") :=
    h.mapAt (P := IsMap metricsCpuLimits) (by simp [FieldOf, metricsLimits]) (fun _ => id) (entries_nil _)
  have hmemory : IsMemory (mapAt m "memory") :=
    h.mapAt (by simp [FieldOf, metricsLimits]) (fun _ => id) isMemory_nil
  have hsystem : Entries systemLimits (mapAt m "system") :=
    h.mapAt (P := IsMap systemLimits) (by simp [FieldOf, metricsLimits]) (fun _ => id) (entries_nil _)
  exact {
    cpu := metricsCpuOf_valid hcpu
    memory := metricsMemoryOf_valid hmemory
    system := systemOf_valid hsystem
    volumeNames := by
      simp only [metricsOf, List.map_map]
      exact volumeNames
    storageVolumes := List.forall_mem_map.mpr fun s hs => storageVolumeOf_valid (hvolumes s hs)
    interfaceNames := by
      simp only [metricsOf, List.map_map]
      exact interfaceNames
    networkInterfaces :=
      List.forall_mem_map.mpr fun s hs => networkInterfaceOf_valid (hinterfaces s hs)
    gpuNames := by
      simp only [metricsOf, List.map_map]
      exact gpuNames
    gpus := List.forall_mem_map.mpr fun s hs => gpuOf_valid (hgpus s hs) }

/-- Metrics within the limits are taken. -/
theorem accepted_metrics (h : Entries metricsLimits m) :
    Accepted Codec.metricsFromMap (.map m) := by
  have hweak : IsMetrics (.map m) := ⟨m, rfl, h.weaken metricsLimits_weaker⟩
  have hread : (Value.map m).read = some (.map (toQtMap m)) := by
    rw [Value.Fits.read (hweak.fits : (Value.map m).Fits 4), toQt_map]
  rw [Accepted, hread, Option.bind_some,
    Codec.metricsFromMap_of_carriedBy (metricsOf_carriedBy (h.weaken metricsLimits_weaker))
      (metricsOf_valid h)]
  rfl

end Metrics

end RpiDashboard.Daemon
