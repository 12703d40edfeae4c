import RpiDashboard.Data.Firsts
import RpiDashboard.Daemon.BuildLaws
import RpiDashboard.Daemon.Metrics
import RpiDashboard.Protocol.DecoderLaws

/-! What `Collector::metrics` reports is within the limits of the wire format, up to the encoding
of names and the names of graphics cards. -/

namespace RpiDashboard.Daemon

open Numeric Qt Protocol

section Numbers

theorem natAbs_toNat_lt (n : UInt64) : (n.toNat : Int).natAbs < 2 ^ 64 := by
  rw [Int.natAbs_natCast]
  exact n.toNat_lt

theorem abs_ofInt_toNat_le (n : UInt64) : |(Double.ofInt n.toNat).toRat| ≤ 2 ^ 64 :=
  Double.abs_toRat_ofInt_le (by decide) (natAbs_toNat_lt n)

theorem one_le_abs_ofInt_sub {a b : UInt64} (h : a < b) :
    1 ≤ |(Double.ofInt (b - a).toNat).toRat| := by
  refine Double.one_le_abs_toRat_ofInt (k := 64) (by decide) (natAbs_toNat_lt _) ?_
  rw [UInt64.toNat_sub_of_le _ _ (UInt64.le_of_lt h)]
  have := UInt64.lt_iff_toNat_lt.mp h
  omega

theorem isRatio_usageRatio {previous current : UInt64 × UInt64} (h : previous.1 < current.1) :
    (usageRatio previous current).IsRatio := by
  refine Double.isRatio_clamp (Double.sub_isFinite (k := 65) (by decide) ?_)
  have hquotient := Double.abs_toRat_div_le (k := 64) (l := 0)
    (abs_ofInt_toNat_le (current.2 - previous.2)) (by simpa using one_le_abs_ofInt_sub h)
  calc _ ≤ |Double.one.toRat| + |(Double.div _ _).toRat| := abs_sub _ _
    _ ≤ 1 + 2 ^ (64 + 0) := add_le_add (by simp) hquotient
    _ ≤ 2 ^ 65 := by norm_num

theorem isRatio_cpuUsage {previous current : Option (UInt64 × UInt64)} :
    ∀ d ∈ cpuUsage previous current, d.IsRatio := by
  intro d hd
  simp only [cpuUsage, Option.bind_eq_bind, Option.mem_def, Option.bind_eq_some_iff] at hd
  obtain ⟨p, -, c, -, hd⟩ := hd
  split at hd
  case isTrue hlt =>
    cases hd
    exact isRatio_usageRatio hlt
  case isFalse => cases hd

theorem isRatio_v3dUsage {previous current : Option (UInt64 × UInt64)} :
    ∀ d ∈ v3dUsage previous current, d.IsRatio := by
  intro d hd
  simp only [v3dUsage, Option.bind_eq_bind, Option.mem_def, Option.bind_eq_some_iff] at hd
  obtain ⟨p, -, c, -, hd⟩ := hd
  split at hd
  case isTrue =>
    split at hd
    case isTrue hfinite =>
      cases hd
      exact Double.isRatio_clamp hfinite
    case isFalse => cases hd
  case isFalse => cases hd

theorem isRatio_drmUsage {h : Host} {entry : StdString} : ∀ d ∈ drmUsage h entry, d.IsRatio := by
  intro d hd
  simp only [drmUsage, Option.bind_eq_bind, Option.mem_def, Option.bind_eq_some_iff] at hd
  obtain ⟨raw, -, percent, -, hd⟩ := hd
  split at hd
  case isTrue hle =>
    cases hd
    have hpercent : percent.toNat ≤ 100 := UInt64.le_iff_toNat_le.mp hle
    have hsign : ∀ n : Nat, n < 2 ^ 53 → (Double.ofInt n).negative = false := fun n hn => by
      rw [Double.ofInt_negative (k := 53) (by decide) (by simpa using hn)]
      simp
    refine Double.isRatio_div (hsign _ (by omega)) (hsign 100 (by decide)) ?_
    have hhundred : (Double.ofInt 100).toRat = 100 := by decide +kernel
    rw [Double.toRat_ofInt (by omega), hhundred]
    exact_mod_cast hpercent
  case isFalse => cases hd

theorem isFinite_of_measurable {d : Double} (h : measurable d) : d.isFinite = true :=
  ((Bool.and_eq_true _ _).mp h).1

theorem isFinite_uptime {contents : StdString} : ∀ d ∈ uptime contents, d.isFinite = true :=
  fun _ hd => isFinite_of_measurable (Option.filter_eq_some_iff.mp hd).2

theorem isFinite_milli {milli : Double} (h : milli.isFinite = true) :
    (milli.div (Double.ofInt 1000)).isFinite = true := by
  have hthousand : (Double.ofInt 1000).toRat = 1000 := by decide +kernel
  refine Double.div_isFinite_of_two_le h ?_
  rw [hthousand]
  norm_num

theorem isFinite_temperature {h : Host} {kind : StdString → Bool} :
    ∀ d ∈ temperature h kind, d.isFinite = true := by
  intro d hd
  obtain ⟨zone, hzone, rfl⟩ := Option.map_eq_some_iff.mp hd
  obtain ⟨name, -, hread⟩ := List.mem_filterMap.mp (List.mem_of_find?_eq_some hzone)
  simp only [thermalZone, Option.bind_eq_bind, Option.bind_eq_some_iff] at hread
  obtain ⟨type, -, hread⟩ := hread
  split at hread
  case isTrue => cases hread
  case isFalse =>
    simp only [Option.bind_eq_some_iff] at hread
    obtain ⟨raw, -, ⟨milli, rest⟩, -, hread⟩ := hread
    split at hread
    case isTrue hmeasurable =>
      cases hread
      exact isFinite_milli (isFinite_of_measurable ((Bool.and_eq_true _ _).mp hmeasurable).2)
    case isFalse => cases hread

/-- The time since the last measurement, if there is any, is at least a nanosecond. -/
theorem le_elapsedSince {previous : Option Int64} {now : Int64}
    (h : Double.zero.lt (elapsedSince previous now)) :
    1 ≤ |(elapsedSince previous now).toRat| * 2 ^ 30 := by
  cases previous with
  | none => exact absurd h (by simp [elapsedSince, Double.lt])
  | some previous =>
    rw [elapsedSince] at h ⊢
    have hlow := (now - previous).le_toInt
    have hhigh := (now - previous).toInt_lt
    generalize (now - previous).toInt = nanoseconds at h hlow hhigh ⊢
    have hbillion : (Double.ofInt 1000000000).toRat = 1000000000 := by decide +kernel
    by_cases hzero : nanoseconds = 0
    case pos =>
      rw [hzero] at h
      exact absurd h (by decide +kernel)
    case neg =>
      have hlt : nanoseconds.natAbs < 2 ^ 64 := by omega
      have hone := Double.one_le_abs_toRat_ofInt (k := 64) (by decide) hlt hzero
      refine Double.le_abs_toRat_div (by decide) ?_
      rw [hbillion, abs_div, div_mul_eq_mul_div, le_div_iff₀ (by norm_num)]
      norm_num
      linarith

theorem isFinite_perSecond {previous current : UInt64} {elapsed : Double}
    (h : 1 ≤ |elapsed.toRat| * 2 ^ 30) : (perSecond previous current elapsed).isFinite = true :=
  Double.div_isFinite (k := 64) (abs_ofInt_toNat_le _) h (by decide)

end Numbers

section Sections

theorem builds_cpuSection (h : Host) (previous : Option (UInt64 × UInt64)) (stat : StdString) :
    Builds metricsCpuLimits (cpuSection h previous stat) := by
  have husage : ∀ v ∈ (cpuUsage previous (cpuTimes stat)).map .number, IsShare v :=
    Option.forall_mem_map.mpr fun d hd => ⟨d, rfl, isRatio_cpuUsage d hd⟩
  have htemperature : ∀ v ∈ (temperature h cpuThermalZone).map .number, IsFinite v :=
    Option.forall_mem_map.mpr fun d hd => ⟨d, rfl, isFinite_temperature d hd⟩
  exact ((builds_nil _).assignSome (by simp [metricsCpuLimits]) husage).assignSome
    (by simp [metricsCpuLimits]) htemperature

theorem inRange_of_le {n : UInt64} (h : n ≤ kWireMaximum) : InRange n := UInt64.le_iff_toNat_le.mp h

theorem inRange_mul {n k : UInt64} (hk : k ≠ 0) (h : n ≤ kWireMaximum / k) : InRange (n * k) := by
  have hle := UInt64.le_iff_toNat_le.mp h
  rw [UInt64.toNat_div] at hle
  have hk' : 0 < k.toNat := Nat.pos_of_ne_zero fun hz => hk (UInt64.toNat_inj.mp hz)
  have hmul := (Nat.le_div_iff_mul_le hk').mp hle
  have hmax : kWireMaximum.toNat = 2 ^ 63 - 1 := rfl
  rw [InRange, UInt64.toNat_mul, Nat.mod_eq_of_lt] <;> omega

theorem inRange_memoryValue {mem : StdString} {source : String} :
    ∀ n ∈ memoryValue mem source, InRange n := by
  intro n hn
  obtain ⟨before, rest, hsplit, -⟩ := List.lookup_eq_some_iff.mp hn
  have hmem : (lit source, n) ∈ (getlines mem).filterMap memoryLine := by
    rw [← List.mem_reverse, hsplit]
    exact List.mem_append_right _ List.mem_cons_self
  obtain ⟨line, -, hline⟩ := List.mem_filterMap.mp hmem
  simp only [memoryLine, Option.bind_eq_bind, Option.bind_eq_some_iff] at hline
  obtain ⟨⟨name, rest⟩, -, hline⟩ := hline
  split at hline
  case h_1 =>
    simp only [Option.bind_eq_some_iff] at hline
    obtain ⟨kibibytes, -, hline⟩ := hline
    split at hline
    case isTrue hle =>
      cases hline
      exact inRange_mul (by decide) hle.2
    case isFalse => cases hline
  case h_2 => cases hline

theorem Builds.addMemory {mem : StdString} {m : StdMap} {source target : String} {positive : Bool}
    (h : Builds metricsMemoryFields m) (hf : (target, IsUnsigned) ∈ metricsMemoryFields) :
    Builds metricsMemoryFields (addMemory mem m source target positive) := by
  refine h.assignSome hf (Option.forall_mem_map.mpr fun n hn => ?_)
  exact ⟨n, rfl, inRange_memoryValue n (Option.filter_eq_some_iff.mp hn).1⟩

section DropExceeding

variable {m : StdMap} {available total : String} {fields : Fields}

theorem mem_unsignedAt {key : String} {n : UInt64} :
    n ∈ unsignedAt m key ↔ m.find (lit key) = some (.unsigned n) := by
  rw [unsignedAt, Option.mem_def, Option.bind_eq_some_iff]
  constructor
  case mp =>
    rintro ⟨v, hv, hn⟩
    cases v <;> cases hn
    exact hv
  case mpr => exact fun h => ⟨_, h, rfl⟩

theorem dropExceeding_cases (m : StdMap) (available total : String) :
    dropExceeding m available total = m.erase (lit available) ∨
      (dropExceeding m available total = m ∧ AtMost (unsignedAt m available) (unsignedAt m total)) := by
  unfold dropExceeding
  split
  case h_1 a t ha ht =>
    split
    case isTrue => exact .inl rfl
    case isFalse hle =>
      refine .inr ⟨rfl, fun p hp w hw => ?_⟩
      rw [mem_unsignedAt, ha] at hp
      rw [mem_unsignedAt, ht] at hw
      cases hp
      cases hw
      exact UInt64.not_lt.mp hle
  case h_2 hnot =>
    refine .inr ⟨rfl, fun p hp w hw => ?_⟩
    exact absurd (mem_unsignedAt.mp hw) (hnot p w (mem_unsignedAt.mp hp))

theorem Builds.dropExceeding (h : Builds fields m) :
    Builds fields (Daemon.dropExceeding m available total) := by
  rcases dropExceeding_cases m available total with heq | ⟨heq, -⟩
  · exact heq ▸ h.erase
  · exact heq.symm ▸ h

/-- Other fields are left as they are. -/
theorem unsignedAt_dropExceeding {key : String} (hne : available ≠ key) :
    unsignedAt (dropExceeding m available total) key = unsignedAt m key := by
  rcases dropExceeding_cases m available total with heq | ⟨heq, -⟩
  · rw [heq, unsignedAt, find_erase, if_neg hne, unsignedAt]
  · rw [heq]

theorem atMost_dropExceeding :
    AtMost (unsignedAt (dropExceeding m available total) available)
      (unsignedAt (dropExceeding m available total) total) := by
  rcases dropExceeding_cases m available total with heq | ⟨heq, hle⟩
  · intro p hp
    rw [heq, mem_unsignedAt, find_erase, if_pos rfl] at hp
    cases hp
  · rw [heq]
    exact hle

end DropExceeding

theorem isMemory_memorySection (mem : StdString) : IsMemory (memorySection mem) := by
  have hadd : ∀ {m : StdMap} (source target : String) (positive : Bool),
      (target, IsUnsigned) ∈ metricsMemoryFields → Builds metricsMemoryFields m →
      Builds metricsMemoryFields (addMemory mem m source target positive) :=
    fun _ _ _ hf h => h.addMemory hf
  have hbuilt := hadd "SwapFree" "swap_available_bytes" false (by simp [metricsMemoryFields])
    (hadd "SwapTotal" "swap_total_bytes" false (by simp [metricsMemoryFields])
      (hadd "MemAvailable" "available_bytes" false (by simp [metricsMemoryFields])
        (hadd "MemTotal" "total_bytes" true (by simp [metricsMemoryFields]) (builds_nil _))))
  refine ⟨hbuilt.dropExceeding.dropExceeding.entries, ?_, atMost_dropExceeding⟩
  have hframe : ∀ (m : StdMap) (key : String), "swap_available_bytes" ≠ key →
      unsignedAt (dropExceeding m "swap_available_bytes" "swap_total_bytes") key =
        unsignedAt m key := fun _ _ => unsignedAt_dropExceeding
  rw [memorySection, hframe _ _ (by decide), hframe _ _ (by decide)]
  exact atMost_dropExceeding

theorem isFinite_loadAverages {contents : StdString} {a b c : Double}
    (h : loadAverages contents = some (a, b, c)) :
    a.isFinite = true ∧ b.isFinite = true ∧ c.isFinite = true := by
  simp only [loadAverages, Option.bind_eq_bind, Option.bind_eq_some_iff] at h
  obtain ⟨_, -, _, -, _, -, h⟩ := h
  split at h
  case isTrue hmeasurable =>
    cases h
    simp only [Bool.and_eq_true] at hmeasurable
    exact ⟨isFinite_of_measurable hmeasurable.1.1, isFinite_of_measurable hmeasurable.1.2,
      isFinite_of_measurable hmeasurable.2⟩
  case isFalse => cases h

theorem builds_systemSection (uptimeFile loadFile : StdString) :
    Builds systemLimits (systemSection uptimeFile loadFile) := by
  have huptime : ∀ v ∈ (uptime uptimeFile).map .number, IsFinite v :=
    Option.forall_mem_map.mpr fun d hd => ⟨d, rfl, isFinite_uptime d hd⟩
  have hsystem : Builds systemLimits
      (StdMap.assignSome [] "uptime_seconds" ((uptime uptimeFile).map .number)) :=
    (builds_nil _).assignSome (by simp [systemLimits]) huptime
  unfold systemSection
  split
  case h_1 a b c hload =>
    obtain ⟨ha, hb, hc⟩ := isFinite_loadAverages hload
    have hnumber : ∀ {d : Double}, d.isFinite = true → IsFinite (.number d) := fun hd => ⟨_, rfl, hd⟩
    exact ((hsystem.assign (by simp [systemLimits]) (hnumber ha)).assign (by simp [systemLimits])
      (hnumber hb)).assign (by simp [systemLimits]) (hnumber hc)
  case h_2 => exact hsystem

end Sections

section Network

variable {h : Host} {c : Collector} {elapsed : Double} {name : StdString}
  {received transmitted : Option UInt64}

theorem isFinite_rates {previous current : Option (UInt64 × UInt64)} {previousTime : Option Int64}
    {now : Int64} {rx tx : Double}
    (h : rates previous current (elapsedSince previousTime now) = some (rx, tx)) :
    rx.isFinite = true ∧ tx.isFinite = true := by
  simp only [rates, Option.bind_eq_bind, Option.bind_eq_some_iff] at h
  obtain ⟨p, -, q, -, h⟩ := h
  split at h
  case isTrue hlt =>
    cases h
    have hle := le_elapsedSince hlt.1
    exact ⟨isFinite_perSecond hle, isFinite_perSecond hle⟩
  case isFalse => cases h

theorem builds_networkInterface {now : Int64} (hname : IsShortText (.text name)) :
    Builds interfaceLimits
      (networkInterface c (elapsedSince c.previousTime now) name received transmitted) := by
  have hcounter : ∀ (counter : Option UInt64),
      ∀ v ∈ (counter.filter (· ≤ kWireMaximum)).map .unsigned, IsUnsigned v := fun _ =>
    Option.forall_mem_map.mpr fun n hn =>
      ⟨n, rfl, inRange_of_le (by simpa using (Option.filter_eq_some_iff.mp hn).2)⟩
  have hcounters : Builds interfaceLimits (((StdMap.assign [] (lit "name") (.text name)).assignSome
      "rx_bytes" ((received.filter (· ≤ kWireMaximum)).map .unsigned)).assignSome "tx_bytes"
        ((transmitted.filter (· ≤ kWireMaximum)).map .unsigned)) :=
    (((builds_nil _).assign (by simp [interfaceLimits]) hname).assignSome
      (by simp [interfaceLimits]) (hcounter received)).assignSome (by simp [interfaceLimits])
        (hcounter transmitted)
  unfold networkInterface
  split
  case h_1 rx tx hrates =>
    obtain ⟨hrx, htx⟩ := isFinite_rates hrates
    exact (hcounters.assign (P := IsFinite) (by simp [interfaceLimits]) ⟨rx, rfl, hrx⟩).assign
      (P := IsFinite) (by simp [interfaceLimits]) ⟨tx, rfl, htx⟩
  case h_2 => exact hcounters

theorem find_networkInterface_name :
    (networkInterface c elapsed name received transmitted).find (lit "name") =
      some (.text name) := by
  unfold networkInterface
  split <;> simp

theorem ordered_networkInterface :
    (networkInterface c elapsed name received transmitted).Ordered := by
  have hcounters : ∀ rx tx, (((StdMap.assign [] (lit "name") (.text name)).assignSome "rx_bytes"
      rx).assignSome "tx_bytes" tx).Ordered := fun _ _ =>
    ordered_assignSome (ordered_assignSome StdMap.ordered_nil.assign)
  unfold networkInterface
  split
  case h_1 => exact (hcounters _ _).assign.assign
  case h_2 => exact hcounters _ _

/-- An interface with something to report. -/
def reports (h : Host) (c : Collector) (elapsed : Double) (name : StdString) : Bool :=
  let received := counter h name "rx_bytes"
  let transmitted := counter h name "tx_bytes"
  networkName name &&
    (received.any (· ≤ kWireMaximum) || transmitted.any (· ≤ kWireMaximum) ||
      (rates (c.previousNetwork.lookup name) (counters received transmitted) elapsed).isSome)

def interfaceOf (h : Host) (c : Collector) (elapsed : Double) (name : StdString) : StdMap :=
  networkInterface c elapsed name (counter h name "rx_bytes") (counter h name "tx_bytes")

/-- There is more than the name. -/
theorem length_networkInterface :
    decide (1 < (networkInterface c elapsed name received transmitted).length) =
      (received.any (· ≤ kWireMaximum) || transmitted.any (· ≤ kWireMaximum) ||
        (rates (c.previousNetwork.lookup name) (counters received transmitted) elapsed).isSome) := by
  have hany : ∀ counter : Option UInt64,
      counter.any (· ≤ kWireMaximum) = (counter.filter (· ≤ kWireMaximum)).isSome := by
    intro counter
    cases counter with
    | none => rfl
    | some n => by_cases hn : n ≤ kWireMaximum <;> simp [Option.filter_some, hn]
  rw [hany, hany]
  unfold networkInterface
  generalize received.filter _ = rx
  generalize transmitted.filter _ = tx
  generalize rates _ _ _ = r
  cases rx <;> cases tx <;> cases r <;> rfl

theorem reports_eq (hname : networkName name = true) :
    reports h c elapsed name = decide (1 < (interfaceOf h c elapsed name).length) := by
  rw [interfaceOf, length_networkInterface, reports, hname, Bool.true_and]

theorem reports_of_not_networkName (hname : networkName name = false) :
    reports h c elapsed name = false := by
  rw [reports, hname, Bool.false_and]

theorem reports_of_isNone (hrx : counter h name "rx_bytes" = none)
    (htx : counter h name "tx_bytes" = none) : reports h c elapsed name = false := by
  have hrates : rates (c.previousNetwork.lookup name) none elapsed = none := by
    simp [rates]
  simp [reports, hrx, htx, counters, hrates]

/-- The loop over the interfaces takes the first ones that have something to report. -/
theorem fst_networkLoop (h : Host) (c : Collector) (elapsed : Double) {room : Nat} (hroom : room ≠ 0)
    (names : List StdString) :
    (networkLoop h c elapsed room names).1 =
      (((names.filter (reports h c elapsed)).take room).map (interfaceOf h c elapsed)).map .map := by
  induction names generalizing room with
  | nil => simp [networkLoop]
  | cons name names ih =>
    rw [networkLoop]
    dsimp only
    split
    case isTrue hskip =>
      have hreports : reports h c elapsed name = false := by
        simp only [Bool.or_eq_true, Bool.not_eq_true', Bool.and_eq_true,
          Option.isNone_iff_eq_none] at hskip
        rcases hskip with hname | ⟨hrx, htx⟩
        · exact reports_of_not_networkName hname
        · exact reports_of_isNone hrx htx
      rw [List.filter_cons_of_neg (by simp [hreports]), ih hroom]
    case isFalse hkeep =>
      simp only [Bool.or_eq_true, Bool.not_eq_true', not_or, Bool.not_eq_false] at hkeep
      have hreports : reports h c elapsed name =
          decide (1 < (interfaceOf h c elapsed name).length) := reports_eq hkeep.1
      split
      case isTrue hempty =>
        have hnone : reports h c elapsed name = false :=
          hreports.trans (decide_eq_false (Nat.not_lt.mpr hempty))
        rw [List.filter_cons_of_neg (by simp [hnone]), ih hroom]
      case isFalse hfull =>
        rw [List.filter_cons_of_pos (hreports.trans (decide_eq_true (Nat.lt_of_not_le hfull)))]
        split
        case isTrue hlast =>
          have hone : room = 1 := by omega
          simp [hone, interfaceOf]
        case isFalse hmore =>
          have hsucc : room = room - 1 + 1 := by omega
          rw [hsucc, List.take_succ_cons, ih (by omega)]
          rfl

/-- The interfaces that are reported: the first ones with something to report. -/
def reportedInterfaces (h : Host) (now : Int64) (c : Collector) : List StdString :=
  ((h.directoryEntries "/sys/class/net").filter
    (reports h c (elapsedSince c.previousTime now))).take kMaximumNetworkInterfaces

theorem nodup_directoryEntries (h : Host) (path : String) : (h.directoryEntries path).Nodup :=
  (List.perm_insertionSort _ _).nodup_iff.mpr (h.directory (lit path)).nodup

theorem isNamed_networks {now : Int64} (hu : ∀ name ∈ reportedInterfaces h now c, IsUtf8 name) :
    IsNamed 64 "name" IsInterface (.array (((reportedInterfaces h now c).map
      (interfaceOf h c (elapsedSince c.previousTime now))).map .map)) := by
  have hshort : ∀ name ∈ reportedInterfaces h now c, IsShort name := by
    intro name hn
    have hreports := (List.mem_filter.mp (List.mem_of_mem_take hn)).2
    simp only [reports, networkName, Bool.and_eq_true, decide_eq_true_eq] at hreports
    exact ⟨hu name hn, hreports.1.1.1.2, hreports.1.1.2⟩
  have hnames : ((reportedInterfaces h now c).map
      (interfaceOf h c (elapsedSince c.previousTime now))).map (bytesAt · "name") =
        reportedInterfaces h now c := by
    rw [List.map_map]
    refine (List.map_congr_left fun name _ => ?_).trans (List.map_id _)
    exact bytesAt_of_find find_networkInterface_name
  refine isNamed_of_nodup ?_ ?_ ?_ ?_
  · refine List.forall_mem_map.mpr fun name hn => ⟨(builds_networkInterface ?_).entries, ?_⟩
    · exact (hshort name hn).text
    · simp [interfaceOf, find_networkInterface_name]
  · rw [List.length_map]
    exact List.length_take_le _ _
  · rw [hnames]
    exact ((nodup_directoryEntries h _).filter _).sublist (List.take_sublist _ _)
  · exact List.forall_mem_map.mpr fun name hn => ⟨name, find_networkInterface_name, hshort name hn⟩

end Network

section Storage

variable {h : Host} {sort : MountSort}

/-- The volume of a mount with a capacity. -/
def volumeOf (h : Host) (mount : Mount) : StdMap :=
  let (total, available) := (capacity h mount.mountPoint).getD (0, 0)
  storageVolume mount total available

/-- The mounts that are reported: the first of each mount point that has a capacity. -/
def reportedMounts (sort : MountSort) (h : Host) : List Mount :=
  ((firstMounts [] (sort.apply (mounts h))).filter
    fun mount => (capacity h mount.mountPoint).isSome).take kMaximumStorageVolumes

theorem storageVolumes_eq : storageVolumes sort h = (reportedMounts sort h).map (volumeOf h) := by
  rw [storageVolumes, reportedMounts, List.map_take]
  congr 1
  induction firstMounts [] (sort.apply (mounts h)) with
  | nil => rfl
  | cons mount l ih =>
    rw [List.filterMap_cons, List.filter_cons]
    cases hcapacity : capacity h mount.mountPoint with
    | none => simpa using ih
    | some amounts =>
      simp only [Option.map_some, Option.isSome_some, if_true, List.map_cons, ih, volumeOf, hcapacity,
        Option.getD_some]

theorem firstMounts_eq (seen : List StdString) (l : List Mount) :
    firstMounts seen l = firstOfEach Mount.mountPoint seen l := by
  induction l generalizing seen with
  | nil => rfl
  | cons mount l ih =>
    rw [firstMounts, firstOfEach, ih, ih]
    congr

theorem mem_firstMounts {seen : List StdString} {l : List Mount} {mount : Mount}
    (hm : mount ∈ firstMounts seen l) : mount ∈ l ∧ mount.mountPoint ∉ seen := by
  rw [firstMounts_eq] at hm
  exact mem_firstOfEach hm

theorem nodup_firstMounts (seen : List StdString) (l : List Mount) :
    ((firstMounts seen l).map Mount.mountPoint).Nodup := by
  rw [firstMounts_eq]
  exact nodup_firstOfEach seen l

theorem capacity_sound {mountPoint : StdString} {total available : UInt64}
    (hc : capacity h mountPoint = some (total, available)) :
    total ≠ 0 ∧ total ≤ kWireMaximum ∧ available ≤ total := by
  simp only [capacity, Option.bind_eq_bind, Option.bind_eq_some_iff] at hc
  obtain ⟨status, -, hc⟩ := hc
  split at hc
  case isTrue => cases hc
  case isFalse =>
    split at hc
    case isTrue => cases hc
    case isFalse hnot =>
      cases hc
      simpa only [not_or, UInt64.not_lt] using hnot

theorem capacity_inRange {mountPoint : StdString} {total available : UInt64}
    (hc : capacity h mountPoint = some (total, available)) :
    InRange total ∧ InRange available ∧ available ≤ total := by
  obtain ⟨-, htotal, hle⟩ := capacity_sound hc
  exact ⟨inRange_of_le htotal, inRange_of_le (UInt64.le_trans hle htotal), hle⟩

/-- The texts of a line of `/proc/self/mountinfo` that is kept. -/
theorem mountOf_texts {line : StdString} {mount : Mount} (hm : mountOf line = some mount) :
    (mount.mountPoint ≠ [] ∧ mount.mountPoint.length ≤ 256) ∧
      mount.device ≠ [] ∧ mount.device.length ≤ 256 := by
  simp only [mountOf] at hm
  split at hm
  case isTrue => cases hm
  case isFalse =>
    split at hm
    case isTrue => cases hm
    case isFalse hnot =>
      cases hm
      simp only [not_or, Nat.not_lt] at hnot
      exact ⟨⟨hnot.1, hnot.2.2.1⟩, hnot.2.1, hnot.2.2.2.1⟩

theorem find_storageVolume (mount : Mount) (total available : UInt64) :
    (storageVolume mount total available).find (lit "mount_point") = some (.text mount.mountPoint) ∧
      (storageVolume mount total available).find (lit "device_name") = some (.text mount.device) := by
  simp [storageVolume]

theorem ordered_storageVolume (mount : Mount) (total available : UInt64) :
    (storageVolume mount total available).Ordered :=
  StdMap.ordered_nil.assign.assign.assign.assign.assign.assign

theorem isVolume_storageVolume {mount : Mount} {total available : UInt64}
    (hpoint : IsShort mount.mountPoint) (hdevice : IsShort mount.device) (htotal : InRange total)
    (havailable : InRange available) (hle : available ≤ total) :
    IsVolume (storageVolume mount total available) := by
  refine ⟨?_, by simp [storageVolume], ?_⟩
  · refine Builds.entries ?_
    refine Builds.assign (P := IsUnsigned) ?_ (by simp [volumeLimits]) ⟨_, rfl, havailable⟩
    refine Builds.assign (P := IsUnsigned) ?_ (by simp [volumeLimits]) ⟨_, rfl, htotal⟩
    refine Builds.assign (P := IsFlag) ?_ (by simp [volumeLimits]) ⟨_, rfl⟩
    refine Builds.assign (P := IsFlag) ?_ (by simp [volumeLimits]) ⟨_, rfl⟩
    exact ((builds_nil _).assign (by simp [volumeLimits]) hpoint.text).assign
      (by simp [volumeLimits]) hdevice.text
  · simpa [AtMost, unsignedAt, storageVolume, Value.unsigned?] using hle

theorem find_volumeOf (h : Host) (mount : Mount) :
    (volumeOf h mount).find (lit "mount_point") = some (.text mount.mountPoint) ∧
      (volumeOf h mount).find (lit "device_name") = some (.text mount.device) :=
  find_storageVolume mount _ _

theorem isNamed_volumes (hu : ∀ mount ∈ reportedMounts sort h,
      IsUtf8 mount.mountPoint ∧ IsUtf8 mount.device) :
    IsNamed 64 "mount_point" IsVolume
      (.array (((reportedMounts sort h).map (volumeOf h)).map .map)) := by
  have hshort : ∀ mount ∈ reportedMounts sort h, IsShort mount.mountPoint ∧ IsShort mount.device := by
    intro mount hm
    have hmem := (mem_firstMounts (List.mem_filter.mp (List.mem_of_mem_take hm)).1).1
    obtain ⟨line, -, hline⟩ := List.mem_filterMap.mp ((sort.perm _).mem_iff.mp hmem)
    obtain ⟨hpoint, hdevice⟩ := mountOf_texts hline
    exact ⟨⟨(hu mount hm).1, hpoint⟩, (hu mount hm).2, hdevice⟩
  have hnames : ((reportedMounts sort h).map (volumeOf h)).map (bytesAt · "mount_point") =
      (reportedMounts sort h).map Mount.mountPoint := by
    rw [List.map_map]
    exact List.map_congr_left fun mount _ => bytesAt_of_find (find_volumeOf h mount).1
  refine isNamed_of_nodup ?_ ?_ ?_ ?_
  · refine List.forall_mem_map.mpr fun mount hm => ?_
    obtain ⟨⟨total, available⟩, hc⟩ := Option.isSome_iff_exists.mp
      (List.mem_filter.mp (List.mem_of_mem_take hm)).2
    obtain ⟨htotal, havailable, hle⟩ := capacity_inRange hc
    simp only [volumeOf, hc, Option.getD_some]
    exact isVolume_storageVolume (hshort mount hm).1 (hshort mount hm).2 htotal havailable hle
  · rw [List.length_map]
    exact List.length_take_le _ _
  · rw [hnames]
    exact (nodup_firstMounts _ _).sublist
      (((List.take_sublist _ _).trans List.filter_sublist).map Mount.mountPoint)
  · exact List.forall_mem_map.mpr fun mount hm =>
      ⟨_, (find_volumeOf h mount).1, (hshort mount hm).1⟩

end Storage

section Gpu

variable {h : Host} {c : Collector}

/-- The vendors of the cards of known vendors. -/
def drmVendors (h : Host) : List StdString :=
  ((h.directoryEntries "/sys/class/drm").filter drmCard).filterMap (drmVendor h)

def knownVendors : List StdString := [lit "Intel", lit "NVIDIA", lit "AMD"]

theorem drmVendor_known {entry vendor : StdString} (hv : drmVendor h entry = some vendor) :
    vendor ∈ knownVendors := by
  obtain ⟨raw, -, hv⟩ := Option.bind_eq_some_iff.mp hv
  unfold gpuVendor at hv
  dsimp only at hv
  split_ifs at hv <;> cases hv <;> simp [knownVendors]

theorem drmVendors_known : ∀ vendor ∈ drmVendors h, vendor ∈ knownVendors := by
  intro vendor hv
  obtain ⟨entry, -, hentry⟩ := List.mem_filterMap.mp hv
  exact drmVendor_known hentry

theorem isShort_known : ∀ vendor ∈ knownVendors, IsShort vendor := by decide +kernel

theorem find_drmItem (h : Host) (entry vendor : StdString) :
    (drmItem h entry vendor).find (lit "name") = some (.text vendor) := by
  simp [drmItem]

theorem map_bytesAt_drmItems : (drmItems h).map (bytesAt · "name") = drmVendors h := by
  rw [drmItems, drmVendors, List.map_filterMap]
  congr 1
  funext entry
  cases drmVendor h entry with
  | none => rfl
  | some vendor => simp [bytesAt_of_find (find_drmItem h entry vendor)]

theorem isUnsigned_clock {clock : Option UInt64} (hc : ∀ n ∈ clock, InRange n) :
    ∀ v ∈ clock.map .unsigned, IsUnsigned v :=
  Option.forall_mem_map.mpr fun n hn => ⟨n, rfl, hc n hn⟩

theorem inRange_v3dClock : ∀ n ∈ v3dClock h, InRange n := by
  intro n hn
  simp only [v3dClock, Option.bind_eq_bind, Option.mem_def, Option.bind_eq_some_iff] at hn
  obtain ⟨_, -, _, -, hn⟩ := hn
  have hle := (Option.filter_eq_some_iff.mp hn).2
  exact inRange_of_le (by simpa using (of_decide_eq_true hle).2)

theorem inRange_drmClock {entry : StdString} : ∀ n ∈ drmClock h entry, InRange n := by
  intro n hn
  simp only [drmClock, Option.bind_eq_bind, Option.mem_def, Option.bind_eq_some_iff] at hn
  obtain ⟨_, -, _, -, hn⟩ := hn
  split at hn
  case isTrue hle =>
    cases hn
    exact inRange_mul (by decide) hle.2
  case isFalse => cases hn

theorem isGpu_v3d (c : Collector) (h : Host) : IsGpu (v3d c h) := by
  have husage : ∀ v ∈ ((v3dStats h).bind fun current => v3dUsage c.previousGpu current).map .number,
      IsShare v := by
    refine Option.forall_mem_map.mpr fun d hd => ?_
    obtain ⟨current, -, hd⟩ := Option.bind_eq_some_iff.mp hd
    exact ⟨d, rfl, isRatio_v3dUsage d hd⟩
  have htemperature : ∀ v ∈ (temperature h gpuThermalZone).map .number, IsFinite v :=
    Option.forall_mem_map.mpr fun d hd => ⟨d, rfl, isFinite_temperature d hd⟩
  have hname : IsShort (lit "V3D") := by decide +kernel
  refine ⟨Builds.entries ?_, by simp [v3d]⟩
  exact ((((builds_nil gpuLimits).assign (by simp [gpuLimits]) hname.text).assignSome
    (by simp [gpuLimits]) (isUnsigned_clock inRange_v3dClock)).assignSome (by simp [gpuLimits])
      husage).assignSome (by simp [gpuLimits]) htemperature

theorem isGpu_drmItem {entry vendor : StdString} (hv : vendor ∈ knownVendors) :
    IsGpu (drmItem h entry vendor) := by
  have husage : ∀ v ∈ (drmUsage h entry).map .number, IsShare v :=
    Option.forall_mem_map.mpr fun d hd => ⟨d, rfl, isRatio_drmUsage d hd⟩
  refine ⟨Builds.entries ?_, by simp [drmItem]⟩
  exact (((builds_nil gpuLimits).assign (by simp [gpuLimits]) (isShort_known vendor hv).text).assignSome
    (by simp [gpuLimits]) (isUnsigned_clock inRange_drmClock)).assignSome (by simp [gpuLimits]) husage

theorem mem_drmItems {item : StdMap} (hi : item ∈ drmItems h) :
    IsGpu item ∧ ∃ t, item.find (lit "name") = some (.text t) ∧ t ∈ knownVendors := by
  obtain ⟨entry, -, hitem⟩ := List.mem_filterMap.mp hi
  obtain ⟨vendor, hv, rfl⟩ := Option.map_eq_some_iff.mp hitem
  exact ⟨isGpu_drmItem (drmVendor_known hv), vendor, find_drmItem h entry vendor, drmVendor_known hv⟩

theorem sortItems_perm (items : List StdMap) : (sortItems items).Perm items :=
  List.perm_insertionSort _ _

/-- Cards of different vendors, or a V3D alone, are named apart. -/
theorem isNamed_gpus (hcards : v3dFound h = false → (drmVendors h).Nodup) :
    IsNamed 16 "name" IsGpu (.array ((gpus c h).map .map)) := by
  unfold gpus
  split
  case isTrue =>
    have hname : (v3d c h).find (lit "name") = some (.text (lit "V3D")) := by simp [v3d]
    refine isNamed_of_nodup ?_ (by simp) (by simp) ?_
    · exact List.forall_mem_singleton.mpr (isGpu_v3d c h)
    · exact List.forall_mem_singleton.mpr ⟨_, hname, by decide +kernel⟩
  case isFalse hv3d =>
    have hmem : ∀ item ∈ (sortItems (drmItems h)).take 16, item ∈ drmItems h := fun item hi =>
      (sortItems_perm _).mem_iff.mp (List.mem_of_mem_take hi)
    refine isNamed_of_nodup (fun item hi => (mem_drmItems (hmem item hi)).1)
      (List.length_take_le _ _) ?_ fun item hi => ?_
    · have hperm := (sortItems_perm (drmItems h)).map (bytesAt · "name")
      rw [map_bytesAt_drmItems] at hperm
      exact (hperm.nodup_iff.mpr (hcards (by simpa using hv3d))).sublist
        ((List.take_sublist _ _).map _)
    · obtain ⟨-, t, ht, hknown⟩ := mem_drmItems (hmem item hi)
      exact ⟨t, ht, isShort_known t hknown⟩

/-- There are only three vendors, so no more than three cards can be named apart. -/
theorem nodup_drmVendors
    (hn : (((sortItems (drmItems h)).take 16).map (bytesAt · "name")).Nodup) :
    (drmVendors h).Nodup := by
  have hperm := (sortItems_perm (drmItems h)).map (bytesAt · "name")
  rw [map_bytesAt_drmItems] at hperm
  rw [List.map_take] at hn
  have hsubset : ∀ t ∈ ((sortItems (drmItems h)).map (bytesAt · "name")).take 16,
      t ∈ knownVendors := fun t ht => drmVendors_known t (hperm.mem_iff.mp (List.mem_of_mem_take ht))
  have hle := (List.subperm_of_subset hn hsubset).length_le
  have hlen : ((sortItems (drmItems h)).map (bytesAt · "name")).length ≤ 16 := by
    rw [List.length_take] at hle
    have : knownVendors.length = 3 := rfl
    omega
  rw [List.take_of_length_le hlen] at hn
  exact hperm.nodup_iff.mp hn

end Gpu

section Root

variable {sort : MountSort} {h : Host} {c : Collector} {networks : List Value} {now : Int64}

theorem builds_metricsRoot (hnetworks : IsNamed 64 "name" IsInterface (.array networks))
    (hvolumes : IsNamed 64 "mount_point" IsVolume (.array ((storageVolumes sort h).map .map)))
    (hgpus : IsNamed 16 "name" IsGpu (.array ((gpus c h).map .map))) :
    Builds metricsLimits (metricsRoot sort h c networks) := by
  refine Builds.addObject (P := IsMap systemLimits) ?_ (by simp [metricsLimits]) fun _ =>
    ⟨_, rfl, (builds_systemSection _ _).entries⟩
  refine Builds.addObject (P := fun v => ∃ m, v = .map m ∧ IsMemory m) ?_ (by simp [metricsLimits])
    fun _ => ⟨_, rfl, isMemory_memorySection _⟩
  refine Builds.addObject (P := IsMap metricsCpuLimits) ?_ (by simp [metricsLimits]) fun _ =>
    ⟨_, rfl, (builds_cpuSection _ _ _).entries⟩
  refine Builds.addArray ?_ (by simp [metricsLimits]) hgpus
  refine Builds.addArray ?_ (by simp [metricsLimits]) hvolumes
  exact (builds_nil _).addArray (by simp [metricsLimits]) hnetworks

theorem nodup_metricsRoot : ((metricsRoot sort h c networks).map Prod.fst).Nodup :=
  StdMap.Ordered.nodup (ordered_addObject (ordered_addObject (ordered_addObject
    (ordered_addArray (ordered_addArray (ordered_addArray StdMap.ordered_nil))))))

theorem find_metricsRoot_networks (hne : networks ≠ []) :
    (metricsRoot sort h c networks).find (lit "network_interfaces") = some (.array networks) := by
  rw [metricsRoot, find_addObject (by decide), find_addObject (by decide),
    find_addObject (by decide), find_addArray (by decide), find_addArray (by decide),
    find_addArray_self hne]

theorem find_metricsRoot_volumes (hne : storageVolumes sort h ≠ []) :
    (metricsRoot sort h c networks).find (lit "storage_volumes") =
      some (.array ((storageVolumes sort h).map .map)) := by
  rw [metricsRoot, find_addObject (by decide), find_addObject (by decide),
    find_addObject (by decide), find_addArray (by decide), find_addArray_self (by simpa using hne)]

theorem find_metricsRoot_gpus (hne : gpus c h ≠ []) :
    (metricsRoot sort h c networks).find (lit "gpus") = some (.array ((gpus c h).map .map)) := by
  rw [metricsRoot, find_addObject (by decide), find_addObject (by decide),
    find_addObject (by decide), find_addArray_self (by simpa using hne)]

/-- The list of interfaces of a measurement. -/
def networksOf (h : Host) (now : Int64) (c : Collector) : List Value :=
  ((reportedInterfaces h now c).map (interfaceOf h c (elapsedSince c.previousTime now))).map .map

theorem snd_metrics (sort : MountSort) (h : Host) (now : Int64) (c : Collector) :
    (metrics sort h now c).2 =
      if (metricsRoot sort h c (networksOf h now c)).isEmpty then none
      else some (.map (metricsRoot sort h c (networksOf h now c))) := by
  rw [networksOf, reportedInterfaces, ← fst_networkLoop h c _ (by decide)]
  rfl

/-- What the dashboard reads of an accepted measurement that has something in it. -/
theorem reads_metricsRoot (haccepted : ∀ v ∈ (metrics sort h now c).2,
      Accepted Codec.metricsFromMap v) {key : String} {v : Value}
    (hfind : (metricsRoot sort h c (networksOf h now c)).find (lit key) = some v) :
    ∃ root, Reads (metricsRoot sort h c (networksOf h now c)) root ∧
      (Codec.metricsFromMap (.map root)).isSome := by
  have hne : (metricsRoot sort h c (networksOf h now c)).isEmpty = false := by
    cases hroot : metricsRoot sort h c (networksOf h now c) with
    | nil =>
      rw [hroot] at hfind
      cases hfind
    | cons e m => rfl
  rw [snd_metrics, hne] at haccepted
  obtain ⟨metrics, hm⟩ := Option.isSome_iff_exists.mp (haccepted _ rfl)
  obtain ⟨q, hq, hparse⟩ := Option.bind_eq_some_iff.mp hm
  obtain ⟨root, rfl, hreads⟩ := read_map nodup_metricsRoot hq
  exact ⟨root, hreads, by rw [hparse]; rfl⟩

/-- What a measurement needs to be taken: names in UTF-8, to the letter, and cards of different
vendors where there is no V3D. -/
structure Presentable (sort : MountSort) (h : Host) (now : Int64) (c : Collector) : Prop where
  interfaces : ∀ name ∈ reportedInterfaces h now c, IsUtf8 name
  mounts : ∀ mount ∈ reportedMounts sort h, IsUtf8 mount.mountPoint ∧ IsUtf8 mount.device
  cards : v3dFound h = false → (drmVendors h).Nodup

theorem Presentable.accepted (hp : Presentable sort h now c) :
    ∀ v ∈ (metrics sort h now c).2, Accepted Codec.metricsFromMap v := by
  intro v hv
  rw [snd_metrics] at hv
  split at hv
  case isTrue => cases hv
  case isFalse =>
    cases hv
    refine accepted_metrics (builds_metricsRoot (isNamed_networks hp.interfaces) ?_
      (isNamed_gpus hp.cards)).entries
    rw [storageVolumes_eq]
    exact isNamed_volumes hp.mounts

section Accepted

variable (haccepted : ∀ v ∈ (metrics sort h now c).2, Accepted Codec.metricsFromMap v)

include haccepted

theorem isUtf8_interfaces : ∀ name ∈ reportedInterfaces h now c, IsUtf8 name := by
  intro name hn
  have hne : networksOf h now c ≠ [] := by
    simpa [networksOf] using List.ne_nil_of_mem hn
  have hfind : (metricsRoot sort h c (networksOf h now c)).find (lit "network_interfaces") =
      some (.array (networksOf h now c)) := find_metricsRoot_networks hne
  obtain ⟨root, hreads, -⟩ := reads_metricsRoot haccepted hfind
  obtain ⟨subs, -, hsubs⟩ := hreads.maps hfind
    (List.forall_mem_map.mpr fun _ _ => ordered_networkInterface.nodup)
  obtain ⟨sub, -, hsub⟩ := exists_of_forall₂ hsubs (List.mem_map_of_mem hn)
  obtain ⟨s, -, rfl⟩ := hsub.text find_networkInterface_name
  exact isUtf8_toUtf8 s

theorem isUtf8_mounts :
    ∀ mount ∈ reportedMounts sort h, IsUtf8 mount.mountPoint ∧ IsUtf8 mount.device := by
  intro mount hm
  have hne : storageVolumes sort h ≠ [] := by
    simpa [storageVolumes_eq] using List.ne_nil_of_mem hm
  have hfind : (metricsRoot sort h c (networksOf h now c)).find (lit "storage_volumes") =
      some (.array (((reportedMounts sort h).map (volumeOf h)).map .map)) := by
    rw [find_metricsRoot_volumes hne, storageVolumes_eq]
  obtain ⟨root, hreads, -⟩ := reads_metricsRoot haccepted hfind
  obtain ⟨subs, -, hsubs⟩ := hreads.maps hfind
    (List.forall_mem_map.mpr fun _ _ => (ordered_storageVolume _ _ _).nodup)
  obtain ⟨sub, -, hsub⟩ := exists_of_forall₂ hsubs (List.mem_map_of_mem hm)
  obtain ⟨s, -, hpoint⟩ := hsub.text (find_volumeOf h mount).1
  obtain ⟨t, -, hdevice⟩ := hsub.text (find_volumeOf h mount).2
  exact ⟨hpoint ▸ isUtf8_toUtf8 s, hdevice ▸ isUtf8_toUtf8 t⟩

theorem nodup_cards (hv3d : v3dFound h = false) : (drmVendors h).Nodup := by
  refine nodup_drmVendors ?_
  have hgpus : gpus c h = (sortItems (drmItems h)).take 16 := by simp [gpus, hv3d]
  rw [← hgpus]
  by_cases hne : gpus c h = []
  case pos => simp [hne]
  case neg =>
    have hmem : ∀ item ∈ gpus c h, item ∈ drmItems h := fun item hi =>
      (sortItems_perm _).mem_iff.mp (List.mem_of_mem_take (hgpus ▸ hi))
    have hfind : (metricsRoot sort h c (networksOf h now c)).find (lit "gpus") =
        some (.array ((gpus c h).map .map)) := find_metricsRoot_gpus hne
    obtain ⟨root, hreads, hparse⟩ := reads_metricsRoot haccepted hfind
    obtain ⟨subs, hvalue, hsubs⟩ := hreads.maps hfind
      fun item hi => (mem_drmItems (hmem item hi)).1.1.nodup
    obtain ⟨names, hnodup, hnames⟩ := Codec.metricsFromMap_gpus hparse hvalue
    have htexts : ∀ item ∈ gpus c h, ∃ t, item.find (lit "name") = some (.text t) := fun item hi =>
      let ⟨_, t, ht, _⟩ := mem_drmItems (hmem item hi)
      ⟨t, ht⟩
    rw [map_bytesAt_of_reads hsubs htexts hnames]
    exact hnodup.map toUtf8_injective

end Accepted

end Root

section TwinCards

/-- The order of mounts, with mounts of one mount point as they come. -/
def MountLe (left right : Mount) : Prop := mountBefore right left = false
  deriving Decidable

theorem mountLe_iff {left right : Mount} : MountLe left right ↔
    left.mountPoint = lit "/" ∨ (right.mountPoint ≠ lit "/" ∧ left.mountPoint ≤ right.mountPoint) := by
  unfold MountLe mountBefore
  by_cases hl : left.mountPoint = lit "/" <;> by_cases hr : right.mountPoint = lit "/" <;>
    simp [hl, hr, List.not_lt]

def stableSort : MountSort where
  apply mounts := mounts.insertionSort MountLe
  perm := List.perm_insertionSort MountLe
  sorted := by
    have htotal : Std.Total MountLe := ⟨fun a b => by
      simp only [mountLe_iff]
      have := List.le_total a.mountPoint b.mountPoint
      tauto⟩
    have htrans : IsTrans Mount MountLe := ⟨fun a b c => by
      simp only [mountLe_iff]
      rintro (ha | ⟨hb, hab⟩) hbc
      · exact .inl ha
      · rcases hbc with hb' | ⟨hc, hbc⟩
        · exact absurd hb' hb
        · exact .inr ⟨hc, List.le_trans hab hbc⟩⟩
    exact List.pairwise_insertionSort MountLe

/-- Two graphics cards of one vendor. -/
def twinCards : Host where
  file path :=
    if path ∈ ["card0", "card1"].map fun card => drmPath (lit card) "device/vendor" then
      some (lit "0x1002\n")
    else none
  directory path :=
    if path = lit "/sys/class/drm" then ⟨[lit "card0", lit "card1"], by decide +kernel⟩ else .empty

end TwinCards

end RpiDashboard.Daemon
