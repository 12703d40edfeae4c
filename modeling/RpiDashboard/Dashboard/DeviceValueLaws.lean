import RpiDashboard.Dashboard.DeviceModelLaws
import RpiDashboard.Data.Sums
import RpiDashboard.Numeric.RoundingLaws
import RpiDashboard.Protocol.DecoderLaws
import RpiDashboard.Protocol.RoundTripLaws

/-! Which numbers of an accepted snapshot are shown as they are: the average of the frequencies,
and the conversions to integers. -/

namespace RpiDashboard.Dashboard

open Numeric Protocol Qt Telemetry

section Average

/-- The frequencies that are reported. -/
def frequencies (metrics : SystemMetrics) : List UInt64 :=
  metrics.cpu.logicalCpus.filterMap SystemMetrics.LogicalCpu.frequencyHz

/-- The quotient of the true sum by the number of frequencies, between the least and the greatest
of them. -/
def IsAverage (frequencies : List UInt64) (variant : QVariant) : Prop :=
  ∃ average : UInt64, variant = .ulonglong average ∧
    average.toNat = (frequencies.map UInt64.toNat).sum / frequencies.length ∧
    (∃ f ∈ frequencies, f ≤ average) ∧ ∃ f ∈ frequencies, average ≤ f

theorem isAverage_iff {fs : List UInt64} (hne : fs ≠ []) (hlength : fs.length ≤ 256) :
    IsAverage fs (.ulonglong (fs.sum / UInt64.ofNat fs.length)) ↔
      (fs.map UInt64.toNat).sum < 2 ^ 64 := by
  have hpos : 0 < fs.length := List.length_pos_iff.mpr hne
  have hvalue : (fs.sum / UInt64.ofNat fs.length).toNat =
      (fs.map UInt64.toNat).sum % 2 ^ 64 / fs.length := by
    rw [UInt64.toNat_div, toNat_sum, UInt64.toNat_ofNat_of_lt' (hlength.trans_lt (by decide))]
  constructor
  case mp =>
    rintro ⟨average, havg, hquotient, -⟩
    cases havg
    rw [hvalue] at hquotient
    by_contra hlarge
    -- What is lost is a multiple of 2^64, and there are not so many frequencies.
    have hlost : (fs.map UInt64.toNat).sum % 2 ^ 64 + fs.length ≤ (fs.map UInt64.toNat).sum := by
      have := Nat.mod_add_div (fs.map UInt64.toNat).sum (2 ^ 64)
      have := Nat.div_pos (Nat.not_lt.mp hlarge) (by decide)
      omega
    have hle := Nat.div_le_div_right (c := fs.length) hlost
    rw [Nat.add_div_right _ hpos] at hle
    omega
  case mpr =>
    intro hsmall
    rw [Nat.mod_eq_of_lt hsmall] at hvalue
    have hmap : fs.map UInt64.toNat ≠ [] := by simpa using hne
    obtain ⟨⟨low, hlow, hle⟩, high, hhigh, hge⟩ := exists_le_average hmap
    obtain ⟨least, hleast, rfl⟩ := List.mem_map.mp hlow
    obtain ⟨greatest, hgreatest, rfl⟩ := List.mem_map.mp hhigh
    rw [List.length_map, ← hvalue] at hle hge
    exact ⟨_, rfl, hvalue, ⟨least, hleast, UInt64.le_iff_toNat_le.mpr hle⟩,
      greatest, hgreatest, UInt64.le_iff_toNat_le.mpr hge⟩

theorem data_of_device {sources : Sources} {row : Nat} {device : Device}
    (hrow : sources.devices[row]? = some device) (text : QtText) (role : Role) :
    sources.data text (row + 1) role = sources.roleValue text {
      row := row + 1
      remote := some device
      info := device.systemInfo
      metrics := device.metrics.getD {} } role := by
  rw [Sources.data, Sources.entry, hrow]
  rfl

theorem data_frequency {sources : Sources} {row : Nat} {device : Device}
    (hrow : sources.devices[row]? = some device)
    (hne : frequencies (device.metrics.getD {}) ≠ []) (text : QtText) :
    sources.data text (row + 1) .cpuFrequencyHzRole =
      .ulonglong ((frequencies (device.metrics.getD {})).sum /
        UInt64.ofNat (frequencies (device.metrics.getD {})).length) := by
  rw [data_of_device hrow]
  exact if_neg hne

variable {cbor : QtCbor} {bytes : QByteArray} {snapshot : DeviceSnapshot}

theorem metrics_valid (h : (decodeMessage cbor bytes).message = some (.snapshot snapshot)) :
    ∀ metrics ∈ snapshot.metrics, metrics.Valid :=
  DeviceSnapshot.Valid.metrics (decodeMessage_valid h)

/-- A device with the metrics of an accepted snapshot shows their average frequency just if the sum
of the frequencies fits 64 bits. -/
theorem average_frequency_iff (h : (decodeMessage cbor bytes).message = some (.snapshot snapshot))
    {sources : Sources} {row : Nat} {device : Device}
    (hrow : sources.devices[row]? = some device) (hdevice : device.metrics = snapshot.metrics)
    (hreported : frequencies (snapshot.metrics.getD {}) ≠ []) (text : QtText) :
    IsAverage (frequencies (snapshot.metrics.getD {}))
        (sources.data text (row + 1) .cpuFrequencyHzRole) ↔
      ((frequencies (snapshot.metrics.getD {})).map UInt64.toNat).sum < 2 ^ 64 := by
  have hlength : (frequencies (snapshot.metrics.getD {})).length ≤ 256 := by
    refine (List.length_filterMap_le _ _).trans ?_
    cases hm : snapshot.metrics with
    | none => simp
    | some metrics => simpa using (metrics_valid h metrics hm).cpu.names.length_le
  rw [← hdevice] at hreported hlength ⊢
  rw [data_frequency hrow hreported]
  exact isAverage_iff hreported hlength

/-- Three processors of the greatest frequency that a snapshot can have. -/
def fastSnapshot : DeviceSnapshot where
  deviceId := sampleDevice
  instanceId := sampleInstance
  sequence := 1
  systemInfo := sampleHello.systemInfo
  metrics := some { cpu.logicalCpus := ["cpu0", "cpu1", "cpu2"].map fun name =>
    { name := name, frequencyHz := some 0x7fffffffffffffff } }

/-- The list of devices with this one device, as its last snapshot has left it. -/
def shown (snapshot : DeviceSnapshot) : Sources where
  info := {}
  metrics := .new
  devices := [{
    deviceId := snapshot.deviceId
    instanceId := snapshot.instanceId
    displayName := "Pi"
    systemInfo := snapshot.systemInfo
    metrics := snapshot.metrics }]

theorem decode_reference (hv : (TelemetryMessage.snapshot snapshot).Valid)
    (hsize : (encodeMessage .reference (.snapshot snapshot)).length ≤ maximumDatagramSize) :
    (decodeMessage .reference (encodeMessage .reference (.snapshot snapshot))).message =
      some (.snapshot snapshot) := by
  rw [decodeMessage_encodeMessage QtCbor.reference_rfc8949 hv hsize]

theorem fastSnapshot_decoded :
    (decodeMessage .reference (encodeMessage .reference (.snapshot fastSnapshot))).message =
      some (.snapshot fastSnapshot) :=
  decode_reference (by decide +kernel) (by decide +kernel)

theorem fast_average_wrong :
    (decodeMessage .reference (encodeMessage .reference (.snapshot fastSnapshot))).message =
        some (.snapshot fastSnapshot) ∧
      ∀ text, ¬ IsAverage (frequencies (fastSnapshot.metrics.getD {}))
        ((shown fastSnapshot).data text 1 .cpuFrequencyHzRole) := by
  refine ⟨fastSnapshot_decoded, fun text => ?_⟩
  have hrow : (shown fastSnapshot).devices[0]? = some _ := rfl
  rw [data_frequency hrow (by decide), isAverage_iff (by decide) (by decide)]
  decide

theorem average_frequency_sample :
    IsAverage (frequencies (fastSnapshot.metrics.getD {}))
        ((shown fastSnapshot).data Watched.sampleQt 1 .cpuFrequencyHzRole) ↔
      ((frequencies (fastSnapshot.metrics.getD {})).map UInt64.toNat).sum < 2 ^ 64 :=
  average_frequency_iff fastSnapshot_decoded rfl rfl (by decide) Watched.sampleQt

end Average

section Range

/-- A signed integer of so many bits. -/
def Fits (bits : Nat) (n : Int) : Prop := -2 ^ (bits - 1) ≤ n ∧ n < 2 ^ (bits - 1)
  deriving Decidable

/-- The conversions to integers that a role makes. -/
def ConvertsInRange (metrics : SystemMetrics) : Role → Prop
  | .cpuMetricRole => ∀ usage ∈ metrics.cpu.usageRatio, Fits 32 (usage.mul (.ofInt 100)).round
  | .memoryMetricRole => ∀ usage,
    ratio metrics.memory.totalBytes metrics.memory.availableBytes = .double usage →
      Fits 32 (usage.mul (.ofInt 100)).round
  | .temperatureMetricRole => ∀ celsius ∈ metrics.cpu.temperatureCelsius, Fits 32 celsius.round
  | .uptimeMetricRole => ∀ seconds ∈ metrics.system.uptimeSeconds,
    0 ≤ seconds.toRat / 60 ∧ Fits 64 (seconds.div (.ofInt 60)).truncate
  | .bootTimeMsRole => ∀ seconds ∈ metrics.system.uptimeSeconds,
    Fits 64 (seconds.mul (.ofInt 1000)).round
  | _ => True

theorem toRat_hundred : (Double.ofInt 100).toRat = 100 := by decide +kernel

theorem fits_round_iff {bits : Nat} {d : Double} : Fits bits d.round ↔
    -2 ^ (bits - 1) - 1 / 2 < d.toRat ∧ d.toRat < 2 ^ (bits - 1) - 1 / 2 := by
  have hpos : (0 : ℤ) < 2 ^ (bits - 1) := by positivity
  rw [Fits, Double.le_round_iff (by omega), Double.round_lt_iff hpos]
  push_cast
  rfl

theorem fits_int_iff {d : Double} :
    Fits 32 d.round ↔ -2 ^ 31 - 1 / 2 < d.toRat ∧ d.toRat < 2 ^ 31 - 1 / 2 := by
  rw [fits_round_iff]

/-- A small number times 100. -/
theorem fits_percent {d : Double} (h : |d.toRat| ≤ 2) : Fits 32 (d.mul (.ofInt 100)).round := by
  have hproduct : |d.toRat * (Double.ofInt 100).toRat| ≤ 2 ^ 8 := by
    rw [toRat_hundred, abs_mul]
    norm_num
    linarith
  have hle := abs_le.mp (Double.abs_toRat_mul_le hproduct)
  rw [fits_int_iff]
  constructor <;> norm_num at hle ⊢ <;> linarith

/-- The ratio of two byte counts is at most one, and what is computed for it at most two. -/
theorem abs_ratio_le {total available : Option UInt64} {d : Double} (h : AtMost available total)
    (hd : ratio total available = .double d) : |d.toRat| ≤ 2 := by
  unfold ratio at hd
  split at hd
  case h_1 total available =>
    split at hd
    case isTrue hpos =>
      cases hd
      have hle : available ≤ total := h available rfl total rfl
      have htotal : total.toNat ≠ 0 := (UInt64.lt_iff_toNat_lt.mp hpos).ne'
      refine Double.abs_toRat_div_ofInt_le htotal ?_ total.toNat_lt
      rw [UInt64.toNat_sub_of_le _ _ hle]
      omega
    case isFalse => cases hd
  case h_2 => cases hd

/-- The numbers of a snapshot whose conversions are in range. -/
structure Displayable (metrics : SystemMetrics) : Prop where
  uptime : ∀ seconds ∈ metrics.system.uptimeSeconds,
    0 ≤ seconds.toRat ∧ seconds.toRat * 1000 < 2 ^ 63 - 512
  temperature : ∀ celsius ∈ metrics.cpu.temperatureCelsius,
    -2 ^ 31 - 1 / 2 < celsius.toRat ∧ celsius.toRat < 2 ^ 31 - 1 / 2

/-- The doubles below 2^63 are multiples of 1024, and the middle of the last step is rounded up. -/
theorem fits_milliseconds_iff {seconds : Double} (hs : 0 ≤ seconds.toRat) :
    Fits 64 (seconds.mul (.ofInt 1000)).round ↔ seconds.toRat * 1000 < 2 ^ 63 - 512 := by
  have hthousand : (Double.ofInt 1000).toRat = 1000 := by decide +kernel
  have hsign : (Double.ofInt 1000).negative = false := by decide +kernel
  have hmul := Double.round_mul_lt_iff (k := 63) (by decide) (by decide) hs hsign
  have hlow : -2 ^ 63 ≤ (seconds.mul (.ofInt 1000)).round := by
    rw [Double.le_round_iff (by norm_num)]
    have := Double.toRat_mul_nonneg hs hsign
    push_cast
    linarith
  rw [hthousand] at hmul
  norm_num at hmul ⊢
  exact (and_iff_right hlow).trans hmul

theorem fits_minutes {seconds : Double} (hs : 0 ≤ seconds.toRat)
    (hlt : seconds.toRat * 1000 < 2 ^ 63 - 512) :
    Fits 64 (seconds.div (.ofInt 60)).truncate := by
  have hseconds : |seconds.toRat| ≤ 2 ^ 62 := by
    rw [abs_of_nonneg hs]
    linarith
  have hsixty : 1 ≤ |(Double.ofInt 60).toRat| * 2 ^ 0 := by decide +kernel
  have hle := (Double.abs_truncate_le _).trans (Double.abs_toRat_div_le hseconds hsixty)
  have habs : |(seconds.div (.ofInt 60)).truncate| ≤ 2 ^ 62 := by exact_mod_cast hle
  have := abs_le.mp habs
  unfold Fits
  omega

/-- An uptime of 10^19 seconds, which is a finite number. -/
def endlessSnapshot : DeviceSnapshot :=
  { fastSnapshot with metrics := some { system.uptimeSeconds := some (.ofInt (10 ^ 19)) } }

theorem endlessSnapshot_decoded :
    (decodeMessage .reference (encodeMessage .reference (.snapshot endlessSnapshot))).message =
      some (.snapshot endlessSnapshot) :=
  decode_reference (by decide +kernel) (by decide +kernel)

end Range

end RpiDashboard.Dashboard
