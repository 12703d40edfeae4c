import RpiDashboard.Daemon.ReportLaws
import RpiDashboard.Data.Run
import RpiDashboard.Sysmetrics.CollectorLaws

/-! The rates of the network interfaces, as the daemon and as the collector of the dashboard
compute them over a run of collections. -/

namespace RpiDashboard.Sysmetrics

open Daemon Numeric Qt

section Rates

/-- What one collection reads: the time, in ticks of its clock, and the counters of the interfaces
that are there and can be read. -/
structure Reading (κ : Type) where
  time : Int
  received : κ → Option UInt64
  transmitted : κ → Option UInt64

/-- How both programs compute a rate. -/
def rateFormula {α : Type} (n : Numbers α) (previous current : UInt64) (ticks perSecond : Nat) : α :=
  n.div (n.ofNat (current - previous).toNat) (n.div (n.ofNat ticks) (n.ofNat perSecond))

variable {κ : Type} (perSecond : Nat)

/-- The rate of a counter that both collections have read, over the time between them. -/
structure Average (previous now : Reading κ) (counter : Reading κ → Option UInt64) (rate : Double) :
    Prop where
  later : previous.time < now.time
  counted : ∃ p ∈ counter previous, ∃ q ∈ counter now, p ≤ q ∧
    rate = rateFormula .double p q (now.time - previous.time).toNat perSecond ∧
    rateFormula .exact p q (now.time - previous.time).toNat perSecond =
      ((q.toNat : ℚ) - p.toNat) / (((now.time : ℚ) - previous.time) / perSecond)

/-- The rates of an interface, if there are any, are averages since the last collection. -/
structure RatesSince (last : Option (Reading κ)) (now : Reading κ) (name : κ)
    (rx tx : Option Double) : Prop where
  received : ∀ rate ∈ rx, ∃ previous ∈ last,
    Average perSecond previous now (fun reading => reading.received name) rate
  transmitted : ∀ rate ∈ tx, ∃ previous ∈ last,
    Average perSecond previous now (fun reading => reading.transmitted name) rate

variable {perSecond}

theorem rateFormula_exact {p q : UInt64} (hle : p ≤ q) {before now : Int} (hlater : before < now) :
    rateFormula .exact p q (now - before).toNat perSecond =
      ((q.toNat : ℚ) - p.toNat) / (((now : ℚ) - before) / perSecond) := by
  have hticks : (((now - before).toNat : Nat) : ℚ) = (now : ℚ) - before := by
    have hnat : (((now - before).toNat : Nat) : Int) = now - before :=
      Int.toNat_of_nonneg (by omega)
    exact_mod_cast congrArg (Int.cast : Int → ℚ) hnat
  simp only [rateFormula, Numbers.exact, hticks, UInt64.toNat_sub_of_le _ _ hle,
    Nat.cast_sub (UInt64.le_iff_toNat_le.mp hle)]

theorem average_of {previous now : Reading κ} {counter : Reading κ → Option UInt64} {p q : UInt64}
    (hlater : previous.time < now.time) (hp : counter previous = some p)
    (hq : counter now = some q) (hle : p ≤ q) :
    Average perSecond previous now counter
      (rateFormula .double p q (now.time - previous.time).toNat perSecond) :=
  ⟨hlater, p, hp, q, hq, hle, rfl, rateFormula_exact hle hlater⟩

/-- A quotient of an integer by a positive number is above zero only if the integer is. -/
theorem pos_of_elapsed (perSecond : Nat) {ticks : Int} (hticks : ticks.natAbs < 2 ^ 64)
    (hper : (Double.ofInt perSecond).negative = false)
    (hzero : Double.zero.lt ((Double.ofInt 0).div (.ofInt perSecond)) = false)
    (h : Double.zero.lt ((Double.ofInt ticks).div (.ofInt perSecond))) : 0 < ticks := by
  by_contra hnot
  rcases (Int.not_lt.mp hnot).lt_or_eq with hneg | rfl
  · have hnegative : ((Double.ofInt ticks).div (.ofInt perSecond)).negative = true := by
      rw [Double.div_negative, hper, Double.ofInt_negative (k := 64) (by decide) hticks]
      simpa using hneg
    have hle := Double.toRat_nonpos hnegative
    rw [Double.lt, Double.toRat_zero, decide_eq_true_eq] at h
    exact hle.not_gt h
  · rw [hzero] at h
    cases h

theorem toInt_sub_of_nonneg {now before : Int64} (hnow : 0 ≤ now) (hbefore : 0 ≤ before) :
    (now - before).toInt = now.toInt - before.toInt := by
  have hnow' : 0 ≤ now.toInt := by simpa using Int64.le_iff_toInt_le.mp hnow
  have hbefore' : 0 ≤ before.toInt := by simpa using Int64.le_iff_toInt_le.mp hbefore
  have hlow := now.toInt_lt
  have hhigh := before.toInt_lt
  rw [Int64.toInt_sub]
  exact Int.bmod_eq_of_le (by omega) (by omega)

end Rates

section Daemon

/-- One measurement of the daemon, at a time since the start of the system. -/
structure Measurement where
  sort : MountSort
  host : Host
  now : Int64
  nonneg : 0 ≤ now

def measure (c : Daemon.Collector) (m : Measurement) : Daemon.Collector :=
  (metrics m.sort m.host m.now c).1

def Measurement.counter (m : Measurement) (file : String) (name : StdString) : Option UInt64 :=
  if name ∈ m.host.directoryEntries "/sys/class/net" then Daemon.counter m.host name file else none

def Measurement.reading (m : Measurement) : Reading StdString where
  time := m.now.toInt
  received := m.counter "rx_bytes"
  transmitted := m.counter "tx_bytes"

/-- Every interface that a measurement reports has the rates since the last one. -/
def DaemonRates (past : List Measurement) (m : Measurement) : Prop :=
  ∀ network ∈ mapsAt (reported (metrics m.sort m.host m.now (run measure {} past)).2)
      "network_interfaces",
    ∃ name, network.find (lit "name") = some (.text name) ∧
      RatesSince 1000000000 (past.getLast?.map Measurement.reading) m.reading name
        (numberAt network "rx_bytes_per_second") (numberAt network "tx_bytes_per_second")

variable {h : Host} {c : Daemon.Collector} {elapsed : Double} {name : StdString}
  {received transmitted : Option UInt64} {m : Measurement}

theorem numberAt_rates : numberAt (Daemon.networkInterface c elapsed name received transmitted)
      "rx_bytes_per_second" =
        (rates (c.previousNetwork.lookup name) (counters received transmitted) elapsed).map Prod.fst ∧
    numberAt (Daemon.networkInterface c elapsed name received transmitted) "tx_bytes_per_second" =
      (rates (c.previousNetwork.lookup name) (counters received transmitted) elapsed).map
        Prod.snd := by
  unfold Daemon.networkInterface
  split
  case h_1 rx tx hrates => simp [hrates, numberAt, Value.number?]
  case h_2 hrates => simp [hrates, numberAt]

/-- What is kept for the next measurement is what this one has read. -/
theorem mem_networkLoop {room : Nat} {names : List StdString} {current : UInt64 × UInt64}
    (hmem : (name, current) ∈ (networkLoop h c elapsed room names).2) :
    name ∈ names ∧
      counters (Daemon.counter h name "rx_bytes") (Daemon.counter h name "tx_bytes") =
        some current := by
  induction names generalizing room with
  | nil => cases hmem
  | cons first names ih =>
    have hrest : ∀ {room}, (name, current) ∈ (networkLoop h c elapsed room names).2 →
        name ∈ first :: names ∧ counters (Daemon.counter h name "rx_bytes")
          (Daemon.counter h name "tx_bytes") = some current := fun h =>
      (ih h).imp_left (List.mem_cons_of_mem _)
    have hfirst : (name, current) ∈ ((counters (Daemon.counter h first "rx_bytes")
        (Daemon.counter h first "tx_bytes")).map fun current => (first, current)).toList →
          name ∈ first :: names ∧ counters (Daemon.counter h name "rx_bytes")
            (Daemon.counter h name "tx_bytes") = some current := by
      intro hmem
      obtain ⟨_, hcounters, heq⟩ := Option.map_eq_some_iff.mp (Option.mem_toList.mp hmem)
      cases heq
      exact ⟨List.mem_cons_self, hcounters⟩
    rw [networkLoop] at hmem
    dsimp only at hmem
    split at hmem
    case isTrue => exact hrest hmem
    case isFalse =>
      split at hmem
      case isTrue => exact (List.mem_append.mp hmem).elim hfirst hrest
      case isFalse =>
        split at hmem
        case isTrue => exact hfirst hmem
        case isFalse => exact (List.mem_append.mp hmem).elim hfirst hrest

theorem counters_eq_some {current : UInt64 × UInt64} : counters received transmitted = some current ↔
    received = some current.1 ∧ transmitted = some current.2 := by
  cases received <;> cases transmitted <;> simp [counters, Prod.ext_iff]

theorem run_previous (past : List Measurement) :
    (run measure {} past).previousTime = past.getLast?.map Measurement.now ∧
      ∀ name current, (run measure {} past).previousNetwork.lookup name = some current →
        ∃ previous ∈ past.getLast?, previous.counter "rx_bytes" name = some current.1 ∧
          previous.counter "tx_bytes" name = some current.2 := by
  rcases List.eq_nil_or_concat past with rfl | ⟨earlier, last, rfl⟩
  · exact ⟨rfl, fun _ _ h => nomatch h⟩
  · rw [List.concat_eq_append, run_concat, List.getLast?_concat]
    refine ⟨rfl, fun name current hlookup => ⟨last, rfl, ?_⟩⟩
    obtain ⟨_, _, heq, -⟩ := List.lookup_eq_some_iff.mp hlookup
    have hkept : (name, current) ∈ (measure (run measure {} earlier) last).previousNetwork := by
      simp [heq]
    obtain ⟨hmem, hcounters⟩ := mem_networkLoop hkept
    rw [Measurement.counter, Measurement.counter, if_pos hmem, if_pos hmem]
    exact counters_eq_some.mp hcounters

theorem rates_eq_some {previous current : Option (UInt64 × UInt64)} {rx tx : Double}
    (hrates : rates previous current elapsed = some (rx, tx)) :
    ∃ p ∈ previous, ∃ q ∈ current, Double.zero.lt elapsed ∧ p.1 ≤ q.1 ∧ p.2 ≤ q.2 ∧
      rx = perSecond p.1 q.1 elapsed ∧ tx = perSecond p.2 q.2 elapsed := by
  simp only [rates, Option.bind_eq_bind, Option.bind_eq_some_iff] at hrates
  obtain ⟨p, hp, q, hq, hrates⟩ := hrates
  split at hrates
  case isTrue hlt =>
    cases hrates
    exact ⟨p, hp, q, hq, hlt.1, hlt.2.1, hlt.2.2, rfl, rfl⟩
  case isFalse => cases hrates

theorem elapsedSince_some {previous m : Measurement}
    (hlt : Double.zero.lt (elapsedSince (some previous.now) m.now)) :
    previous.reading.time < m.reading.time ∧
      elapsedSince (some previous.now) m.now =
        (Double.ofInt (m.reading.time - previous.reading.time).toNat).div (.ofInt 1000000000) := by
  have hdifference : (m.now - previous.now).toInt = m.reading.time - previous.reading.time :=
    toInt_sub_of_nonneg m.nonneg previous.nonneg
  have hlow := (m.now - previous.now).le_toInt
  have hhigh := (m.now - previous.now).toInt_lt
  have hpos : 0 < (m.now - previous.now).toInt :=
    pos_of_elapsed 1000000000 (by omega) (by decide +kernel) (by decide +kernel) hlt
  rw [hdifference] at hpos
  refine ⟨Int.sub_pos.mp hpos, ?_⟩
  rw [elapsedSince, hdifference, Int.toNat_of_nonneg hpos.le]

theorem daemonRates (past : List Measurement) (m : Measurement) : DaemonRates past m := by
  intro network hnetwork
  rw [reported_metrics, networksOf, mapsAt_networks] at hnetwork
  obtain ⟨name, hname, rfl⟩ := List.mem_map.mp hnetwork
  have hdirectory : name ∈ m.host.directoryEntries "/sys/class/net" :=
    (List.mem_filter.mp (List.mem_of_mem_take hname)).1
  refine ⟨name, find_networkInterface_name, ?_⟩
  rw [interfaceOf, numberAt_rates.1, numberAt_rates.2]
  obtain ⟨htime, hprevious⟩ := run_previous past
  cases hrates : rates ((run measure {} past).previousNetwork.lookup name)
      (counters (Daemon.counter m.host name "rx_bytes") (Daemon.counter m.host name "tx_bytes"))
      (elapsedSince (run measure {} past).previousTime m.now) with
  | none => exact ⟨by simp, by simp⟩
  | some rate =>
    obtain ⟨rx, tx⟩ := rate
    obtain ⟨p, hp, q, hq, hlt, hrx, htx, rfl, rfl⟩ := rates_eq_some hrates
    obtain ⟨previous, hlast, hpRx, hpTx⟩ := hprevious name p hp
    obtain ⟨hqRx, hqTx⟩ := counters_eq_some.mp hq
    rw [htime, Option.mem_def.mp hlast] at hlt ⊢
    obtain ⟨hlater, helapsed⟩ := elapsedSince_some hlt
    simp only [Option.map_some, helapsed]
    have hnow : ∀ file, m.counter file name = Daemon.counter m.host name file := fun _ =>
      if_pos hdirectory
    refine ⟨fun rate hrate => ?_, fun rate hrate => ?_⟩
    · cases hrate
      exact ⟨previous.reading, rfl, average_of hlater hpRx ((hnow _).trans hqRx) hrx⟩
    · cases hrate
      exact ⟨previous.reading, rfl, average_of hlater hpTx ((hnow _).trans hqTx) htx⟩

end Daemon

section Collector

variable {qt : QtNumbers}

/-- One collection of the dashboard. -/
structure Collection where
  order : HashOrder
  sort : VolumeSort
  access : LinuxSysMetricsAccess

def Collection.counter (qt : QtNumbers) (m : Collection) (file name : QString) : Option UInt64 :=
  if name ∈ m.access.directoryEntries "/sys/class/net" then networkCounter qt m.access name file
  else none

def Collection.reading (qt : QtNumbers) (m : Collection) : Reading QString where
  time := m.access.monotonicMilliseconds.toInt
  received := m.counter qt "rx_bytes"
  transmitted := m.counter qt "tx_bytes"

def collected (qt : QtNumbers) (collector : LinuxSysMetricsCollector) (m : Collection) :
    LinuxSysMetricsCollector :=
  (collect qt m.order m.sort collector m.access).1

/-- Every interface that a collection lists has the rates since the last one. -/
def CollectorRates (qt : QtNumbers) (past : List Collection) (m : Collection) : Prop :=
  ∀ network ∈ (collect qt m.order m.sort (run (collected qt) {} past)
      m.access).2.metrics.networkInterfaces,
    RatesSince 1000 (past.getLast?.map (Collection.reading qt)) (m.reading qt) network.name
      network.rxBytesPerSecond network.txBytesPerSecond

theorem mem_interfaceCounters {access : LinuxSysMetricsAccess}
    {entry : QString × Option UInt64 × Option UInt64} (h : entry ∈ interfaceCounters qt access) :
    entry.1 ∈ access.directoryEntries "/sys/class/net" ∧
      entry.2.1 = networkCounter qt access entry.1 "rx_bytes" ∧
      entry.2.2 = networkCounter qt access entry.1 "tx_bytes" := by
  obtain ⟨name, hname, rfl⟩ := List.mem_map.mp (List.mem_filter.mp h).1
  exact ⟨(List.mem_filter.mp hname).1, rfl, rfl⟩

/-- What is kept for the next collection is what this one has read. -/
def KeepsRead (qt : QtNumbers) (access : LinuxSysMetricsAccess)
    (next : List (QString × UInt64 × UInt64)) : Prop :=
  ∀ name current, hashValue next name = some current →
    name ∈ access.directoryEntries "/sys/class/net" ∧
      networkCounter qt access name "rx_bytes" = some current.1 ∧
      networkCounter qt access name "tx_bytes" = some current.2

theorem keepsRead_nextNetwork (qt : QtNumbers) (access : LinuxSysMetricsAccess) :
    KeepsRead qt access (nextNetwork qt access) := by
  refine List.foldlRecOn (motive := KeepsRead qt access) _ _ (fun _ _ h => nomatch h)
    fun next hnext entry hentry name current hvalue => ?_
  obtain ⟨hmem, hrx, htx⟩ := mem_interfaceCounters hentry
  split at hvalue
  case h_1 received transmitted hreceived htransmitted =>
    rw [hashValue_insert] at hvalue
    split at hvalue
    case isTrue heq =>
      cases hvalue
      rw [← heq]
      exact ⟨hmem, hrx.symm.trans hreceived, htx.symm.trans htransmitted⟩
    case isFalse => exact hnext name current hvalue
  case h_2 => exact hnext name current hvalue

theorem run_collected (past : List Collection) :
    (run (collected qt) {} past).previousTimeMs =
        ((past.getLast?.map fun last => last.access.monotonicMilliseconds).getD (-1)) ∧
      ∀ name current, hashValue (run (collected qt) {} past).networkCounters name = some current →
        ∃ previous ∈ past.getLast?, previous.counter qt "rx_bytes" name = some current.1 ∧
          previous.counter qt "tx_bytes" name = some current.2 := by
  rcases List.eq_nil_or_concat past with rfl | ⟨earlier, last, rfl⟩
  · exact ⟨rfl, fun _ _ h => nomatch h⟩
  · rw [List.concat_eq_append, run_concat, List.getLast?_concat]
    refine ⟨rfl, fun name current hvalue => ⟨last, rfl, ?_⟩⟩
    obtain ⟨hmem, hrx, htx⟩ := keepsRead_nextNetwork qt _ name current hvalue
    rw [Collection.counter, Collection.counter, if_pos hmem, if_pos hmem]
    exact ⟨hrx, htx⟩

theorem elapsedSeconds_pos {previous now : Int64}
    (h : Double.zero.lt (elapsedSeconds previous now)) :
    previous.toInt < now.toInt ∧ elapsedSeconds previous now =
      (Double.ofInt (now.toInt - previous.toInt).toNat).div (.ofInt 1000) := by
  unfold elapsedSeconds at h ⊢
  split at h
  case isTrue hlater =>
    have hlt : previous.toInt < now.toInt := Int64.lt_iff_toInt_lt.mp hlater.2
    have hnow : 0 ≤ now := Int64.le_of_lt (Int64.lt_of_le_of_lt hlater.1 hlater.2)
    rw [if_pos hlater, toInt_sub_of_nonneg hnow hlater.1, Int.toNat_of_nonneg (by omega)]
    exact ⟨hlt, rfl⟩
  case isFalse => exact absurd h (by decide +kernel)

variable {collector : LinuxSysMetricsCollector} {elapsed rate : Double} {name diagnostic : QString}
  {received transmitted : Option UInt64}

theorem counterRate_eq_some {previous current : UInt64}
    (h : (counterRate previous current elapsed diagnostic).1 = some rate) :
    previous ≤ current ∧ rate = (Double.ofInt (current - previous).toNat).div elapsed := by
  unfold counterRate at h
  split at h
  case isTrue hle =>
    cases h
    exact ⟨hle, rfl⟩
  case isFalse => cases h

theorem comparable_eq_some {previous : UInt64 × UInt64}
    (h : comparable collector elapsed name = some previous) :
    Double.zero.lt elapsed ∧ hashValue collector.networkCounters name = some previous := by
  unfold comparable at h
  split at h
  case isTrue hlt => exact ⟨hlt, h⟩
  case isFalse => cases h

/-- An interface has a rate only if both of its counters are known from this collection and from
the last one. -/
theorem networkInterface_rates :
    (∀ rate ∈ (networkInterface collector elapsed name received transmitted).1.rxBytesPerSecond,
      ∃ previous ∈ hashValue collector.networkCounters name, ∃ rx ∈ received,
        Double.zero.lt elapsed ∧ previous.1 ≤ rx ∧
          rate = (Double.ofInt (rx - previous.1).toNat).div elapsed) ∧
    (∀ rate ∈ (networkInterface collector elapsed name received transmitted).1.txBytesPerSecond,
      ∃ previous ∈ hashValue collector.networkCounters name, ∃ tx ∈ transmitted,
        Double.zero.lt elapsed ∧ previous.2 ≤ tx ∧
          rate = (Double.ofInt (tx - previous.2).toNat).div elapsed) := by
  unfold networkInterface
  split
  case h_1 rx tx previous hcomparable =>
    obtain ⟨hlt, hprevious⟩ := comparable_eq_some hcomparable
    constructor
    · intro rate hrate
      obtain ⟨hle, heq⟩ := counterRate_eq_some hrate
      exact ⟨previous, hprevious, rx, rfl, hlt, hle, heq⟩
    · intro rate hrate
      obtain ⟨hle, heq⟩ := counterRate_eq_some hrate
      exact ⟨previous, hprevious, tx, rfl, hlt, hle, heq⟩
  case h_2 => exact ⟨(fun _ hrate => nomatch hrate), (fun _ hrate => nomatch hrate)⟩

theorem elapsedSeconds_last {past : List Collection} {m : Collection} {previous : Collection}
    (hlast : previous ∈ past.getLast?)
    (h : Double.zero.lt (elapsedSeconds (run (collected qt) {} past).previousTimeMs
      m.access.monotonicMilliseconds)) :
    (previous.reading qt).time < (m.reading qt).time ∧
      elapsedSeconds (run (collected qt) {} past).previousTimeMs m.access.monotonicMilliseconds =
        (Double.ofInt ((m.reading qt).time - (previous.reading qt).time).toNat).div
          (.ofInt 1000) := by
  rw [(run_collected past).1, Option.mem_def.mp hlast] at h ⊢
  exact elapsedSeconds_pos h

/-- The rate of one of the two counters, over the time since the last collection. -/
theorem average_last {past : List Collection} {m previous : Collection}
    {counter : Reading QString → Option UInt64} {p q : UInt64} (hlast : previous ∈ past.getLast?)
    (hp : counter (previous.reading qt) = some p) (hq : counter (m.reading qt) = some q)
    (hlt : Double.zero.lt (elapsedSeconds (run (collected qt) {} past).previousTimeMs
      m.access.monotonicMilliseconds)) (hle : p ≤ q) :
    ∃ reading ∈ past.getLast?.map (Collection.reading qt),
      Average 1000 reading (m.reading qt) counter ((Double.ofInt (q - p).toNat).div
        (elapsedSeconds (run (collected qt) {} past).previousTimeMs
          m.access.monotonicMilliseconds)) := by
  obtain ⟨hlater, helapsed⟩ := elapsedSeconds_last hlast hlt
  rw [helapsed, Option.mem_def.mp hlast]
  exact ⟨previous.reading qt, rfl, average_of hlater hp hq hle⟩

theorem collectorRates (qt : QtNumbers) (past : List Collection) (m : Collection) :
    CollectorRates qt past m := by
  intro network hnetwork
  obtain ⟨pair, hpair, rfl⟩ := List.mem_map.mp hnetwork
  obtain ⟨entry, hentry, rfl⟩ := List.mem_map.mp hpair
  obtain ⟨hmem, hrx, htx⟩ := mem_interfaceCounters hentry
  have hname : (networkInterface (run (collected qt) {} past)
      (elapsedSeconds (run (collected qt) {} past).previousTimeMs m.access.monotonicMilliseconds)
        entry.1 entry.2.1 entry.2.2).1.name = entry.1 := by
    unfold networkInterface
    split <;> rfl
  have hnow : ∀ file, m.counter qt file entry.1 = networkCounter qt m.access entry.1 file := fun _ =>
    if_pos hmem
  rw [hname]
  constructor
  · intro rate hrate
    obtain ⟨p, hp, q, hq, hlt, hle, rfl⟩ := networkInterface_rates.1 rate hrate
    obtain ⟨previous, hlast, hprevious, -⟩ := (run_collected past).2 entry.1 p hp
    exact average_last hlast hprevious ((hnow _).trans (hrx.symm.trans hq)) hlt hle
  · intro rate hrate
    obtain ⟨p, hp, q, hq, hlt, hle, rfl⟩ := networkInterface_rates.2 rate hrate
    obtain ⟨previous, hlast, -, hprevious⟩ := (run_collected past).2 entry.1 p hp
    exact average_last hlast hprevious ((hnow _).trans (htx.symm.trans hq)) hlt hle

end Collector

/-- Every rate that the daemon or the collector emits, after any run of collections, is the average
since the last collection, in which the interface was read. -/
theorem network_rates_average :
    (∀ (past : List Measurement) (m : Measurement), DaemonRates past m) ∧
      ∀ (qt : QtNumbers) (past : List Collection) (m : Collection), CollectorRates qt past m :=
  ⟨daemonRates, collectorRates⟩

end RpiDashboard.Sysmetrics
