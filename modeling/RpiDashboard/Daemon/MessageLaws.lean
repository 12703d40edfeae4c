import RpiDashboard.Daemon.ShapeLaws
import RpiDashboard.Protocol.RoundTripLaws

/-! What the dashboard decodes from the daemon's messages. -/

namespace RpiDashboard.Daemon

open Numeric Qt Protocol

section Fits

variable {depth : Nat} {v : Value}

theorem IsText.fits (h : IsText v) : v.Fits (depth + 1) := by
  obtain ⟨s, rfl⟩ := h
  exact .text

theorem IsUnsigned.fits (h : IsUnsigned v) : v.Fits (depth + 1) := by
  obtain ⟨n, rfl, hn⟩ := h
  exact .unsigned hn

theorem IsCount.fits (h : IsCount v) : v.Fits (depth + 1) := by
  obtain ⟨n, rfl⟩ := h
  refine .unsigned ?_
  have := n.toNat_lt
  simp only [InRange, UInt32.toNat_toUInt64]
  omega

theorem IsNumber.fits (h : IsNumber v) : v.Fits (depth + 1) := by
  obtain ⟨d, rfl⟩ := h
  exact .number

theorem IsFlag.fits (h : IsFlag v) : v.Fits (depth + 1) := by
  obtain ⟨b, rfl⟩ := h
  exact .boolean

theorem IsList.fits {P : Value → Prop} (hP : ∀ x, P x → x.Fits depth) (h : IsList P v) :
    v.Fits (depth + 1) := by
  obtain ⟨xs, rfl, hxs⟩ := h
  exact .array fun x hx => hP x (hxs x hx)

/-- Every value that a field allows can be held by Qt. -/
def FieldsFit (depth : Nat) (fields : List (String × (Value → Prop))) : Prop :=
  ∀ f ∈ fields, ∀ x, f.2 x → x.Fits depth

variable {fields : List (String × (Value → Prop))}

theorem Entries.fits {m : StdMap} (hfields : FieldsFit (depth + 1) fields) (h : Entries fields m) :
    (Value.map m).Fits (depth + 2) := by
  refine .map h.keys fun e he => ?_
  obtain ⟨f, hf, -, hk⟩ := h.field e he
  exact hfields f hf e.2 hk

theorem IsMap.fits (hfields : FieldsFit (depth + 1) fields) (h : IsMap fields v) :
    v.Fits (depth + 2) := by
  obtain ⟨m, rfl, hm⟩ := h
  exact hm.fits hfields

theorem IsEntry.fits {required : List String} (hfields : FieldsFit (depth + 1) fields)
    (h : IsEntry required fields v) : v.Fits (depth + 2) := by
  obtain ⟨m, rfl, hm, -⟩ := h
  exact hm.fits hfields

theorem hostFields_fit : FieldsFit (depth + 1) hostFields := by
  simp +contextual [FieldsFit, hostFields, IsText.fits]

theorem osFields_fit : FieldsFit (depth + 1) osFields := by
  simp +contextual [FieldsFit, osFields, IsText.fits]

theorem kernelFields_fit : FieldsFit (depth + 1) kernelFields := by
  simp +contextual [FieldsFit, kernelFields, IsText.fits]

theorem hardwareFields_fit : FieldsFit (depth + 2) hardwareFields := by
  simp +contextual [FieldsFit, hardwareFields, IsText.fits, IsList.fits fun _ => IsText.fits]

theorem cpuFields_fit : FieldsFit (depth + 1) cpuFields := by
  simp +contextual [FieldsFit, cpuFields, IsText.fits, IsCount.fits]

theorem memoryFields_fit : FieldsFit (depth + 1) memoryFields := by
  simp +contextual [FieldsFit, memoryFields, IsUnsigned.fits]

theorem IsSystemInfo.fits (h : IsSystemInfo v) : v.Fits (depth + 4) := by
  refine IsMap.fits ?_ h
  simp +contextual [FieldsFit, systemInfoFields, IsMap.fits hostFields_fit, IsMap.fits osFields_fit,
    IsMap.fits kernelFields_fit, IsMap.fits hardwareFields_fit, IsMap.fits cpuFields_fit,
    IsMap.fits memoryFields_fit]

theorem metricsCpuFields_fit : FieldsFit (depth + 1) metricsCpuFields := by
  simp +contextual [FieldsFit, metricsCpuFields, IsNumber.fits]

theorem metricsMemoryFields_fit : FieldsFit (depth + 1) metricsMemoryFields := by
  simp +contextual [FieldsFit, metricsMemoryFields, IsUnsigned.fits]

theorem systemFields_fit : FieldsFit (depth + 1) systemFields := by
  simp +contextual [FieldsFit, systemFields, IsNumber.fits]

theorem storageVolumeFields_fit : FieldsFit (depth + 1) storageVolumeFields := by
  simp +contextual [FieldsFit, storageVolumeFields, IsText.fits, IsFlag.fits, IsUnsigned.fits]

theorem networkInterfaceFields_fit : FieldsFit (depth + 1) networkInterfaceFields := by
  simp +contextual [FieldsFit, networkInterfaceFields, IsText.fits, IsUnsigned.fits, IsNumber.fits]

theorem gpuFields_fit : FieldsFit (depth + 1) gpuFields := by
  simp +contextual [FieldsFit, gpuFields, IsText.fits, IsUnsigned.fits, IsNumber.fits]

theorem IsMetrics.fits (h : IsMetrics v) : v.Fits (depth + 4) := by
  have hlists : ∀ {required : List String} {fields : List (String × (Value → Prop))},
      FieldsFit (depth + 1) fields → ∀ x, IsList (IsEntry required fields) x → x.Fits (depth + 3) :=
    fun hfields _ => IsList.fits fun _ => IsEntry.fits hfields
  refine IsMap.fits ?_ h
  simp +contextual [FieldsFit, metricsFields, IsMap.fits metricsCpuFields_fit,
    IsMap.fits metricsMemoryFields_fit, IsMap.fits systemFields_fit]
  exact ⟨hlists storageVolumeFields_fit, hlists networkInterfaceFields_fit, hlists gpuFields_fit⟩

end Fits

def Uuid.toQUuid (d : Uuid) : QUuid := ⟨d.toList, by simp⟩

/-- The registration that a hello states. -/
def helloOf (c : Config) (d i : Uuid) (info : Value) : Hello where
  deviceId := d.toQUuid
  instanceId := i.toQUuid
  displayName := (fromUtf8? c.displayName).getD ""
  intervalSeconds := c.intervalSeconds
  systemInfo := systemInfoOf info

/-- The measurements that a snapshot states. -/
def snapshotOf (c : Config) (d i : Uuid) (seq : UInt64) (info : Value) (m : Option Value) :
    DeviceSnapshot where
  deviceId := d.toQUuid
  instanceId := i.toQUuid
  intervalSeconds := c.intervalSeconds
  sequence := seq
  systemInfo := systemInfoOf info
  metrics := m.map metricsOf

/-- A map with literal keys. -/
def literal (l : List (String × Value)) : StdMap := l.map fun e => (lit e.1, e.2)

section Literal

variable {l : List (String × Value)} {depth : Nat} {key : String}

theorem literal_keys (l : List (String × Value)) :
    ∀ e ∈ literal l, ∃ s : QString, e.1 = toUtf8 s := by
  intro e he
  obtain ⟨x, -, rfl⟩ := List.mem_map.mp he
  exact ⟨x.1, rfl⟩

theorem literal_fits (h : ∀ e ∈ l, e.2.Fits (depth + 1)) :
    (Value.map (literal l)).Fits (depth + 2) := by
  refine .map (literal_keys l) fun e he => ?_
  obtain ⟨x, hx, rfl⟩ := List.mem_map.mp he
  exact h x hx

theorem find_literal : (literal l).find (lit key) = l.lookup key := by
  induction l with
  | nil => rfl
  | cons e l ih =>
    rw [literal, List.map_cons, StdMap.find, List.lookup_cons]
    by_cases h : e.1 = key
    · simp [h]
    · have hlit : lit e.1 ≠ lit key := fun heq => h (toUtf8_injective heq)
      have hbeq : (key == e.1) = false := by simpa using Ne.symm h
      rw [if_neg hlit, hbeq]
      exact ih

theorem value_literal (hn : (l.map Prod.fst).Nodup) :
    (toQtMap (literal l)).value key = Protocol.optional ((l.lookup key).map Value.toQt) := by
  have hkeys : ((literal l).map Prod.fst).Nodup := by
    have : (literal l).map Prod.fst = (l.map Prod.fst).map lit := by simp [literal]
    rw [this]
    exact hn.map toUtf8_injective
  rw [value_toQtMap (literal_keys l) hkeys, find_literal]

theorem value_of_lookup (hn : (l.map Prod.fst).Nodup) {v : Value} (h : l.lookup key = some v)
    {q : QCborValue} (hq : v.toQt = q) : (toQtMap (literal l)).value key = q := by
  rw [value_literal hn, h, ← hq]
  rfl

end Literal

section Messages

variable {c : Config} {d i : Uuid} {seq : UInt64} {info : Value} {m : Option Value}

def helloEntries (c : Config) (d i : Uuid) (info : Value) : List (String × Value) :=
  [("device_id", .bytes d.toList), ("display_name", .text c.displayName),
    ("instance_id", .bytes i.toList), ("interval_s", .unsigned (UInt64.ofInt c.intervalSeconds)),
    ("system_info", info), ("type", .text (lit "hello")), ("version", .unsigned 1)]

def snapshotEntries (c : Config) (d i : Uuid) (seq : UInt64) (info : Value) (m : Option Value) :
    List (String × Value) :=
  [("device_id", .bytes d.toList), ("instance_id", .bytes i.toList),
    ("interval_s", .unsigned (UInt64.ofInt c.intervalSeconds))] ++
  (m.map fun metrics => ("metrics", metrics)).toList ++
  [("sequence", .unsigned seq), ("system_info", info), ("type", .text (lit "snapshot")),
    ("version", .unsigned 1)]

theorem hello_eq : hello c d i info = cbor (.map (literal (helloEntries c d i info))) := rfl

theorem snapshot_eq :
    snapshot c d i seq info m = cbor (.map (literal (snapshotEntries c d i seq info m))) := by
  cases m <;> rfl

theorem toInt64_ofInt_interval {interval : Int} (h : IntervalWithin interval) :
    (UInt64.ofInt interval).toInt64 = Int64.ofInt interval := by
  obtain ⟨h1, h5⟩ := h
  interval_cases interval <;> rfl

theorem inRange_ofInt_interval {interval : Int} (h : IntervalWithin interval) :
    InRange (UInt64.ofInt interval) := by
  obtain ⟨h1, h5⟩ := h
  interval_cases interval <;> decide

theorem helloEntries_fits {name : QString} (hname : c.displayName = toUtf8 name)
    (hinterval : IntervalWithin c.intervalSeconds) (hinfo : IsSystemInfo info) :
    (Value.map (literal (helloEntries c d i info))).Fits 16 := by
  refine literal_fits ?_
  simp only [helloEntries, hname, lit_eq, List.forall_mem_cons]
  exact ⟨.bytes, .text, .bytes, .unsigned (inRange_ofInt_interval hinterval), hinfo.fits, .text,
    .unsigned (by decide), by simp⟩

theorem hello_carriedBy (hinterval : IntervalWithin c.intervalSeconds) (hinfo : IsSystemInfo info) :
    (helloOf c d i info).CarriedBy (toQtMap (literal (helloEntries c d i info))) := by
  have hn : ((helloEntries c d i info).map Prod.fst).Nodup := by simp [helloEntries]
  obtain ⟨s, rfl, hs⟩ := hinfo
  exact {
    version := value_of_lookup hn rfl (by rw [Value.toQt]; rfl)
    type := value_of_lookup hn rfl (by simp [Value.toQt, lit_eq])
    deviceId := value_of_lookup hn rfl (by rw [Value.toQt]; rfl)
    instanceId := value_of_lookup hn rfl (by rw [Value.toQt]; rfl)
    displayName := value_of_lookup hn rfl (by rw [Value.toQt]; rfl)
    interval := value_of_lookup hn rfl (by rw [Value.toQt, toInt64_ofInt_interval hinterval]; rfl)
    systemInfo := ⟨toQtMap s, value_of_lookup hn rfl (toQt_map s), systemInfoOf_carriedBy hs⟩ }

theorem snapshotEntries_fits (hinterval : IntervalWithin c.intervalSeconds) (hseq : InRange seq)
    (hinfo : IsSystemInfo info) (hm : ∀ metrics ∈ m, IsMetrics metrics) :
    (Value.map (literal (snapshotEntries c d i seq info m))).Fits 16 := by
  refine literal_fits ?_
  have hmetrics : ∀ e ∈ (m.map fun metrics => ("metrics", metrics)).toList, e.2.Fits 15 := by
    intro e he
    obtain ⟨metrics, hmem, rfl⟩ := Option.map_eq_some_iff.mp (Option.mem_toList.mp he)
    exact (hm metrics hmem).fits
  simp only [snapshotEntries, lit_eq, List.forall_mem_append, List.forall_mem_cons]
  exact ⟨⟨⟨.bytes, .bytes, .unsigned (inRange_ofInt_interval hinterval), by simp⟩, hmetrics⟩,
    .unsigned hseq, hinfo.fits, .text, .unsigned (by decide), by simp⟩

theorem lookup_snapshotEntries (key : String) :
    (snapshotEntries c d i seq info m).lookup key =
      if key = "metrics" then m else (snapshotEntries c d i seq info none).lookup key := by
  split
  · next h =>
    subst h
    cases m <;> rfl
  · next h =>
    cases m with
    | none => rfl
    | some metrics =>
      have hbeq : (key == "metrics") = false := by simpa using h
      simp [snapshotEntries, List.lookup_cons, hbeq]

theorem snapshot_carriedBy (hinterval : IntervalWithin c.intervalSeconds)
    (hinfo : IsSystemInfo info) (hm : ∀ metrics ∈ m, IsMetrics metrics) :
    (snapshotOf c d i seq info m).CarriedBy
      (toQtMap (literal (snapshotEntries c d i seq info m))) := by
  have hn : ((snapshotEntries c d i seq info m).map Prod.fst).Nodup := by
    cases m <;> simp [snapshotEntries]
  obtain ⟨s, rfl, hs⟩ := hinfo
  have hmetrics : (toQtMap (literal (snapshotEntries c d i seq (.map s) m))).value "metrics" =
      Protocol.optional (m.map Value.toQt) := by
    rw [value_literal hn, lookup_snapshotEntries, if_pos rfl]
  exact {
    version := value_of_lookup hn (lookup_snapshotEntries _) (by rw [Value.toQt]; rfl)
    type := value_of_lookup hn (lookup_snapshotEntries _) (by simp [Value.toQt, lit_eq])
    deviceId := value_of_lookup hn (lookup_snapshotEntries _) (by rw [Value.toQt]; rfl)
    instanceId := value_of_lookup hn (lookup_snapshotEntries _) (by rw [Value.toQt]; rfl)
    interval := value_of_lookup hn (lookup_snapshotEntries _)
      (by rw [Value.toQt, toInt64_ofInt_interval hinterval]; rfl)
    sequence := value_of_lookup hn (lookup_snapshotEntries _) (by rw [Value.toQt]; rfl)
    systemInfo := ⟨toQtMap s, value_of_lookup hn (lookup_snapshotEntries _) (toQt_map s),
      systemInfoOf_carriedBy hs⟩
    metrics := by
      cases m with
      | none => exact hmetrics
      | some metrics =>
        obtain ⟨t, rfl, ht⟩ := hm metrics rfl
        exact ⟨toQtMap t, hmetrics.trans (by simp [Protocol.optional]), metricsOf_carriedBy ht⟩ }

theorem decodeMessage_cbor {qt : QtCbor} (hqt : qt.Rfc8949) {r : StdMap}
    {message : TelemetryMessage} (hfits : (Value.map r).Fits 16) (hc : message.CarriedBy (toQtMap r)) (hv : message.Valid)
    (hs : (cbor (.map r)).length ≤ maximumDatagramSize) :
    decodeMessage qt (cbor (.map r)) = ⟨some message, ""⟩ := by
  have hread : qt.fromCbor (cbor (.map r)) = some (.map (toQtMap r)) := by
    rw [fromCbor_cbor hqt hfits (lt_of_le_of_lt hs (by decide)), toQt_map]
  have hne : cbor (.map r) ≠ [] := by
    refine List.ne_nil_of_length_pos ?_
    rw [← encodedSize_toQt hfits]
    exact QCborValue.encodedSize_pos _
  rw [decodeMessage_of_fromCbor hne hs hread]
  exact Codec.decodeRoot_of_carriedBy hc hv

theorem decodeMessage_hello {qt : QtCbor} (hqt : qt.Rfc8949) (hinfo : IsSystemInfo info)
    {name : QString} (hname : c.displayName = toUtf8 name) (hv : (helloOf c d i info).Valid)
    (hs : (hello c d i info).length ≤ maximumDatagramSize) :
    decodeMessage qt (hello c d i info) = ⟨some (.hello (helloOf c d i info)), ""⟩ := by
  rw [hello_eq] at hs ⊢
  exact decodeMessage_cbor hqt (helloEntries_fits hname hv.interval hinfo)
    (hello_carriedBy hv.interval hinfo) hv hs

theorem decodeMessage_snapshot {qt : QtCbor} (hqt : qt.Rfc8949) (hinfo : IsSystemInfo info)
    (hm : ∀ metrics ∈ m, IsMetrics metrics) (hv : (snapshotOf c d i seq info m).Valid)
    (hs : (snapshot c d i seq info m).length ≤ maximumDatagramSize) :
    decodeMessage qt (snapshot c d i seq info m) =
      ⟨some (.snapshot (snapshotOf c d i seq info m)), ""⟩ := by
  rw [snapshot_eq] at hs ⊢
  exact decodeMessage_cbor hqt (snapshotEntries_fits hv.interval hv.sequence hinfo hm)
    (snapshot_carriedBy hv.interval hinfo hm) hv hs

/-- Two codecs, one wire format: the dashboard reads every leaf of the daemon's trees,
each at its own field, and nothing else. -/
theorem codecs_agree {qt : QtCbor} (hqt : qt.Rfc8949) (c : Config) (d i : Uuid) (seq : UInt64)
    (info : Value) (m : Option Value) (hd : d.toQUuid ≠ .null) (hi : i.toQUuid ≠ .null)
    (hinterval : IntervalWithin c.intervalSeconds) (hseq : InRange seq)
    (hinfo : IsSystemInfo info ∧ (systemInfoOf info).Valid)
    (hm : ∀ metrics ∈ m, IsMetrics metrics ∧ (metricsOf metrics).Valid) :
    (∀ name : QString, c.displayName = toUtf8 name → TextWithin 128 name →
      (hello c d i info).length ≤ maximumDatagramSize →
      decodeMessage qt (hello c d i info) = ⟨some (.hello (helloOf c d i info)), ""⟩) ∧
    ((snapshot c d i seq info m).length ≤ maximumDatagramSize →
      decodeMessage qt (snapshot c d i seq info m) =
        ⟨some (.snapshot (snapshotOf c d i seq info m)), ""⟩) := by
  constructor
  · intro name hname htext hs
    have hv : (helloOf c d i info).Valid := by
      refine ⟨hd, hi, ?_, hinterval, hinfo.2⟩
      simpa [helloOf, hname] using htext
    exact decodeMessage_hello hqt hinfo.1 hname hv hs
  · intro hs
    have hv : (snapshotOf c d i seq info m).Valid := by
      refine ⟨hd, hi, hinterval, hseq, hinfo.2, ?_⟩
      intro metrics hmem
      obtain ⟨v, hv, rfl⟩ := Option.map_eq_some_iff.mp hmem
      exact (hm v hv).2
    exact decodeMessage_snapshot hqt hinfo.1 (fun metrics hmem => (hm metrics hmem).1) hv hs

end Messages

def sampleConfig : Config where
  host := lit "dashboard"
  displayName := lit "Pi"

def sampleInfo : Value :=
  .map [
    (lit "cpu", .map [(lit "architecture", .text (lit "aarch64")),
      (lit "logical_cpu_count", .unsigned 4)]),
    (lit "hardware", .map [(lit "compatible_ids", .array [.text (lit "raspberrypi,5")])]),
    (lit "host", .map [(lit "host_name", .text (lit "pi"))])]

def sampleMetrics : Value :=
  .map [
    (lit "cpu", .map [(lit "usage_ratio", .number .one)]),
    (lit "memory", .map [(lit "available_bytes", .unsigned 1024),
      (lit "total_bytes", .unsigned 4096)]),
    (lit "network_interfaces", .array [
      .map [(lit "name", .text (lit "eth0")), (lit "rx_bytes", .unsigned 300)]])]

theorem Entries.cons {fields : List (String × (Value → Prop))} {key : String} {P : Value → Prop}
    {v : Value} {m : StdMap} (hf : (key, P) ∈ fields) (hv : P v) (hk : lit key ∉ m.map Prod.fst)
    (h : Entries fields m) : Entries fields ((lit key, v) :: m) where
  nodup := List.nodup_cons.mpr ⟨hk, h.nodup⟩
  field := List.forall_mem_cons.mpr ⟨⟨(key, P), hf, rfl, hv⟩, h.field⟩

theorem sampleInfo_shape : IsSystemInfo sampleInfo := by
  have hcpu : Entries cpuFields [(lit "architecture", .text (lit "aarch64")),
      (lit "logical_cpu_count", .unsigned 4)] :=
    .cons (P := IsText) (by simp [cpuFields]) ⟨"aarch64", rfl⟩ (by decide) <|
      .cons (P := IsCount) (by simp [cpuFields]) ⟨4, rfl⟩ (by decide) (entries_nil _)
  have hhardware : Entries hardwareFields
      [(lit "compatible_ids", .array [.text (lit "raspberrypi,5")])] :=
    .cons (P := IsList IsText) (by simp [hardwareFields])
      ⟨_, rfl, by simpa using ⟨"raspberrypi,5", rfl⟩⟩ (by decide) (entries_nil _)
  have hhost : Entries hostFields [(lit "host_name", .text (lit "pi"))] :=
    .cons (P := IsText) (by simp [hostFields]) ⟨"pi", rfl⟩ (by decide) (entries_nil _)
  refine ⟨_, rfl, ?_⟩
  refine .cons (P := IsMap cpuFields) (by simp [systemInfoFields]) ⟨_, rfl, hcpu⟩ (by decide) ?_
  refine .cons (P := IsMap hardwareFields) (by simp [systemInfoFields]) ⟨_, rfl, hhardware⟩
    (by decide) ?_
  exact .cons (P := IsMap hostFields) (by simp [systemInfoFields]) ⟨_, rfl, hhost⟩ (by decide)
    (entries_nil _)

theorem sampleMetrics_shape : IsMetrics sampleMetrics := by
  have hcpu : Entries metricsCpuFields [(lit "usage_ratio", .number .one)] :=
    .cons (P := IsNumber) (by simp [metricsCpuFields]) ⟨_, rfl⟩ (by decide) (entries_nil _)
  have hmemory : Entries metricsMemoryFields
      [(lit "available_bytes", .unsigned 1024), (lit "total_bytes", .unsigned 4096)] :=
    .cons (P := IsUnsigned) (by simp [metricsMemoryFields]) ⟨_, rfl, by decide⟩ (by decide) <|
      .cons (P := IsUnsigned) (by simp [metricsMemoryFields]) ⟨_, rfl, by decide⟩ (by decide)
        (entries_nil _)
  have hnetwork : Entries networkInterfaceFields
      [(lit "name", .text (lit "eth0")), (lit "rx_bytes", .unsigned 300)] :=
    .cons (P := IsText) (by simp [networkInterfaceFields]) ⟨"eth0", rfl⟩ (by decide) <|
      .cons (P := IsUnsigned) (by simp [networkInterfaceFields]) ⟨_, rfl, by decide⟩ (by decide)
        (entries_nil _)
  refine ⟨_, rfl, ?_⟩
  refine .cons (P := IsMap metricsCpuFields) (by simp [metricsFields]) ⟨_, rfl, hcpu⟩ (by decide) ?_
  refine .cons (P := IsMap metricsMemoryFields) (by simp [metricsFields]) ⟨_, rfl, hmemory⟩
    (by decide) ?_
  exact .cons (P := IsList (IsEntry ["name"] networkInterfaceFields)) (by simp [metricsFields])
    ⟨_, rfl, by simpa using ⟨_, rfl, hnetwork, by simp; rfl⟩⟩ (by decide) (entries_nil _)

def sampleDeviceId : Uuid := Vector.replicate 16 0x11
def sampleInstanceId : Uuid := Vector.replicate 16 0x22

theorem codecs_agree_sample :
    decodeMessage .reference (hello sampleConfig sampleDeviceId sampleInstanceId sampleInfo) =
        ⟨some (.hello (helloOf sampleConfig sampleDeviceId sampleInstanceId sampleInfo)), ""⟩ ∧
      decodeMessage .reference
          (snapshot sampleConfig sampleDeviceId sampleInstanceId 7 sampleInfo (some sampleMetrics)) =
        ⟨some (.snapshot (snapshotOf sampleConfig sampleDeviceId sampleInstanceId 7 sampleInfo
          (some sampleMetrics))), ""⟩ := by
  have h := codecs_agree QtCbor.reference_rfc8949 sampleConfig sampleDeviceId sampleInstanceId 7
    sampleInfo (some sampleMetrics) (by decide) (by decide) (by decide) (by decide)
    ⟨sampleInfo_shape, by decide +kernel⟩ (by
      rintro _ ⟨⟩
      exact ⟨sampleMetrics_shape, by decide +kernel⟩)
  exact ⟨h.1 "Pi" rfl (by decide) (by decide +kernel), h.2 (by decide +kernel)⟩

/-- A tree without a single field has the shape, but is no registration. -/
theorem empty_system_info_rejected :
    IsSystemInfo (.map []) ∧
      (hello sampleConfig sampleDeviceId sampleInstanceId (.map [])).length ≤ maximumDatagramSize ∧
      decodeMessage .reference (hello sampleConfig sampleDeviceId sampleInstanceId (.map [])) =
        ⟨none, "invalid_registration"⟩ ∧
      (snapshot sampleConfig sampleDeviceId sampleInstanceId 7 (.map []) none).length ≤
        maximumDatagramSize ∧
      decodeMessage .reference
          (snapshot sampleConfig sampleDeviceId sampleInstanceId 7 (.map []) none) =
        ⟨none, "invalid_snapshot"⟩ :=
  ⟨⟨[], rfl, entries_nil _⟩, by decide +kernel, by decide +kernel, by decide +kernel,
    by decide +kernel⟩

end RpiDashboard.Daemon
