import RpiDashboard.Daemon.ReportLaws
import RpiDashboard.Data.Sums
import RpiDashboard.Sysmetrics.CollectorLaws

/-! The usage of the processor, as the daemon and as the collector of the dashboard compute it from
two readings of `/proc/stat`. -/

namespace RpiDashboard.Sysmetrics

open Daemon Numeric Qt

section Stat

def totalOf (times : List UInt64) : Nat := (times.map UInt64.toNat).sum

/-- Idle time and time spent waiting for input and output. -/
def idleOf (times : List UInt64) : Nat := (((times.drop 3).take 2).map UInt64.toNat).sum

def activeOf (times : List UInt64) : Nat := totalOf times - idleOf times

/-- A line that is empty, or has a name other than that of the aggregate. -/
def Named (line : List UInt8) : Prop :=
  ∀ name ∈ (words line).head?, name ≠ lit "cpu" ∧
    ∀ c ∈ name.head?, ¬ isdigit c ∧ c ≠ 0x2d ∧ c ≠ 0x2b
  deriving Decidable

/-- A content of `/proc/stat`: the aggregate line comes first, with valid counters, and the names
of the other lines follow. -/
structure ProcStat where
  contents : List UInt8
  times : List UInt64
  line : List UInt8
  others : List (List UInt8)
  lines : contents.splitOn 0x0a = line :: others
  aggregate : lit "cpu " <+: line
  valid : (words (line.drop 4)).map Daemon.unsignedValue = times.map some
  five : 5 ≤ times.length
  fits : totalOf times < 2 ^ 64
  small : contents.length ≤ Daemon.kProcLimit
  named : ∀ other ∈ others, Named other

/-- The active share of the time between two readings; none unless the total has grown and neither
the idle nor the active time has gone back. -/
def share (before now : ProcStat) : Option ℚ :=
  if totalOf before.times < totalOf now.times ∧ idleOf before.times ≤ idleOf now.times ∧
      activeOf before.times ≤ activeOf now.times then
    some ((activeOf now.times - activeOf before.times) / (totalOf now.times - totalOf before.times))
  else none

end Stat

section Formulas

variable {α : Type}

/-- How the daemon computes the usage from total and idle times. -/
def idleFormula (n : Numbers α) (previous current : UInt64 × UInt64) : α :=
  n.clamp (n.sub (n.ofNat 1) (n.div (n.ofNat (current.2 - previous.2).toNat)
    (n.ofNat (current.1 - previous.1).toNat))) (n.ofNat 0) (n.ofNat 1)

/-- How the collector computes the usage. -/
def activeFormula (n : Numbers α) (before now : Counters) : α :=
  n.div (n.ofNat (now.active - before.active).toNat) (n.ofNat (now.total - before.total).toNat)

/-- A ratio is reported just if there is a share, by a formula with the share as its exact value. -/
def Reports (reported : Option Double) (formula : ∀ {α : Type}, Numbers α → α) (share : Option ℚ) :
    Prop :=
  match share with
  | none => reported = none
  | some q => reported = some (formula .double) ∧ formula .exact = q

theorem usageRatio_eq (previous current : UInt64 × UInt64) :
    usageRatio previous current = idleFormula .double previous current := rfl

theorem usage_eq (now before : Counters) : (usage now before).1 =
    if before.total < now.total ∧ before.active ≤ now.active ∧
        now.active - before.active ≤ now.total - before.total then
      some (activeFormula .double before now)
    else none := by
  unfold usage
  simp only [← UInt64.not_lt]
  split_ifs <;> first | rfl | simp_all

end Formulas

section Counters

variable {times : List UInt64}

theorem idleOf_le (times : List UInt64) : idleOf times ≤ totalOf times := by
  refine List.Sublist.sum_le_sum ?_ (by simp)
  exact ((List.take_sublist _ _).trans (List.drop_sublist _ _)).map _

/-- All the time that is counted and the idle time, as words. -/
def summed (times : List UInt64) : UInt64 × UInt64 := (times.sum, ((times.drop 3).take 2).sum)

theorem toNat_summed (h : totalOf times < 2 ^ 64) :
    (summed times).1.toNat = totalOf times ∧ (summed times).2.toNat = idleOf times := by
  constructor
  · rw [summed, toNat_sum]
    exact Nat.mod_eq_of_lt h
  · rw [summed, toNat_sum]
    exact Nat.mod_eq_of_lt ((idleOf_le times).trans_lt h)

end Counters

section Daemon

theorem head_names {others : List (List UInt8)} (h : ∀ other ∈ others, Named other) :
    ∀ name ∈ (others.flatMap words).head?, ∀ c ∈ name.head?, ¬ isdigit c ∧ c ≠ 0x2d ∧ c ≠ 0x2b := by
  induction others with
  | nil => simp
  | cons other others ih =>
    obtain ⟨hother, hothers⟩ := List.forall_mem_cons.mp h
    rw [List.flatMap_cons]
    cases hwords : words other with
    | nil => exact ih hothers
    | cons name names =>
      intro first hfirst
      obtain rfl : name = first := by simpa using hfirst
      exact (hother name (by simp [hwords])).2

theorem cpuTimes_eq (stat : ProcStat) : cpuTimes stat.contents = some (summed stat.times) := by
  obtain ⟨counters, hline⟩ := stat.aggregate
  have hsplit : [0x0a].intercalate (stat.contents.splitOn 0x0a) = stat.contents :=
    List.intercalate_splitOn 0x0a
  have hcontents : stat.contents = lit "cpu " ++ [0x0a].intercalate (counters :: stat.others) := by
    rw [← hsplit, stat.lines, ← hline]
    cases stat.others <;> simp
  have hdrop : stat.line.drop 4 = counters := by rw [← hline]; rfl
  have hvalid := stat.valid
  rw [hdrop] at hvalid
  have hwords : words ([0x0a].intercalate (counters :: stat.others)) =
      words counters ++ stat.others.flatMap words := words_lines _
  have htimes : extractAll (stat.contents.drop 4) = stat.times := by
    rw [hcontents]
    exact extractLoop_words hwords hvalid (head_names stat.named) le_rfl
  have hname : (lit "cpu ").isPrefixOf stat.contents := by
    rw [List.isPrefixOf_iff_prefix, hcontents]
    exact List.prefix_append _ _
  rw [cpuTimes, if_pos hname, htimes]
  rfl

/-- What two measurements of the daemon report of the usage. -/
theorem reported_usage {sort₁ sort₂ : MountSort} {h₁ h₂ : Host} {t₁ t₂ : Int64} {c : Collector}
    {before now : ProcStat}
    (hbefore : h₁.boundedRead (lit "/proc/stat") Daemon.kProcLimit = some before.contents)
    (hnow : h₂.boundedRead (lit "/proc/stat") Daemon.kProcLimit = some now.contents) :
    numberAt (mapAt (reported (metrics sort₂ h₂ t₂ (metrics sort₁ h₁ t₁ c).1).2) "cpu")
        "usage_ratio" =
      if totalOf before.times < totalOf now.times then
        some (idleFormula .double (summed before.times) (summed now.times))
      else none := by
  have hprevious : (metrics sort₁ h₁ t₁ c).1.previousCpu = some (summed before.times) := by
    rw [metrics, hbefore, Option.getD_some, cpuTimes_eq]
    rfl
  rw [reported_metrics, mapAt_cpu, numberAt_usage, hprevious, hnow, Option.getD_some, cpuTimes_eq,
    ← (toNat_summed before.fits).1, ← (toNat_summed now.fits).1]
  simp only [cpuUsage, Option.bind_eq_bind, Option.bind_some, UInt64.lt_iff_toNat_lt, usageRatio_eq]
  rfl

/-- Two measurements of the daemon report the share. -/
def DaemonAgrees (before now : ProcStat) : Prop :=
  ∀ (sort₁ sort₂ : MountSort) (h₁ h₂ : Host) (t₁ t₂ : Int64) (c : Collector),
    h₁.boundedRead (lit "/proc/stat") Daemon.kProcLimit = some before.contents →
    h₂.boundedRead (lit "/proc/stat") Daemon.kProcLimit = some now.contents →
    Reports
      (numberAt (mapAt (reported (metrics sort₂ h₂ t₂ (metrics sort₁ h₁ t₁ c).1).2) "cpu")
        "usage_ratio")
      (idleFormula · (summed before.times) (summed now.times)) (share before now)

variable {before now : ProcStat}

theorem total_eq (stat : ProcStat) : totalOf stat.times = idleOf stat.times + activeOf stat.times :=
  (Nat.add_sub_cancel' (idleOf_le _)).symm

theorem idleFormula_exact (htotal : totalOf before.times < totalOf now.times)
    (hidle : idleOf before.times ≤ idleOf now.times)
    (hactive : activeOf before.times ≤ activeOf now.times) :
    idleFormula .exact (summed before.times) (summed now.times) =
      (activeOf now.times - activeOf before.times) / (totalOf now.times - totalOf before.times) := by
  obtain ⟨htotalBefore, hidleBefore⟩ := toNat_summed before.fits
  obtain ⟨htotalNow, hidleNow⟩ := toNat_summed now.fits
  have htotals : (totalOf before.times : ℚ) < totalOf now.times := by exact_mod_cast htotal
  have hactives : (activeOf before.times : ℚ) ≤ activeOf now.times := by exact_mod_cast hactive
  have hidles : (idleOf before.times : ℚ) ≤ idleOf now.times := by exact_mod_cast hidle
  have hbefore : (totalOf before.times : ℚ) = idleOf before.times + activeOf before.times := by
    exact_mod_cast total_eq before
  have hnow : (totalOf now.times : ℚ) = idleOf now.times + activeOf now.times := by
    exact_mod_cast total_eq now
  have hpos : (0 : ℚ) < totalOf now.times - totalOf before.times := sub_pos.mpr htotals
  have hvalue : 1 - ((idleOf now.times : ℚ) - idleOf before.times) /
      (totalOf now.times - totalOf before.times) =
        (activeOf now.times - activeOf before.times) /
          (totalOf now.times - totalOf before.times) := by
    rw [eq_div_iff hpos.ne', sub_mul, div_mul_cancel₀ _ hpos.ne']
    linarith
  have hlow : 0 ≤ ((activeOf now.times : ℚ) - activeOf before.times) /
      (totalOf now.times - totalOf before.times) := div_nonneg (by linarith) hpos.le
  have hhigh : ((activeOf now.times : ℚ) - activeOf before.times) /
      (totalOf now.times - totalOf before.times) ≤ 1 := (div_le_one hpos).mpr (by linarith)
  have hidleWords : (summed before.times).2 ≤ (summed now.times).2 := by
    rw [UInt64.le_iff_toNat_le, hidleBefore, hidleNow]
    exact hidle
  have htotalWords : (summed before.times).1 ≤ (summed now.times).1 := by
    rw [UInt64.le_iff_toNat_le, htotalBefore, htotalNow]
    exact htotal.le
  rw [idleFormula, UInt64.toNat_sub_of_le _ _ hidleWords, UInt64.toNat_sub_of_le _ _ htotalWords,
    htotalBefore, hidleBefore, htotalNow, hidleNow]
  simp only [Numbers.exact, Nat.cast_sub hidle, Nat.cast_sub htotal.le, Nat.cast_one, Nat.cast_zero]
  rw [hvalue, if_neg hlow.not_gt, if_neg hhigh.not_gt]

/-- A host with this file only. -/
def statHost (stat : ProcStat) : Host where
  file path := if path = lit "/proc/stat" then some stat.contents else none

theorem boundedRead_statHost (stat : ProcStat) :
    (statHost stat).boundedRead (lit "/proc/stat") Daemon.kProcLimit = some stat.contents := by
  simp [Host.boundedRead, statHost, Option.filter_some, stat.small]

theorem daemonAgrees_iff : DaemonAgrees before now ↔
    (totalOf before.times < totalOf now.times →
      idleOf before.times ≤ idleOf now.times ∧ activeOf before.times ≤ activeOf now.times) := by
  constructor
  case mp =>
    intro hagrees htotal
    have hreports := hagrees stableSort stableSort (statHost before) (statHost now) 0 0 {}
      (boundedRead_statHost before) (boundedRead_statHost now)
    rw [reported_usage (boundedRead_statHost before) (boundedRead_statHost now), if_pos htotal,
      share] at hreports
    by_contra hback
    rw [if_neg fun h => hback h.2] at hreports
    cases hreports
  case mpr =>
    intro hcondition sort₁ sort₂ h₁ h₂ t₁ t₂ c hbefore hnow
    rw [reported_usage hbefore hnow, share]
    by_cases htotal : totalOf before.times < totalOf now.times
    case pos =>
      obtain ⟨hidle, hactive⟩ := hcondition htotal
      rw [if_pos htotal, if_pos ⟨htotal, hidle, hactive⟩]
      exact ⟨rfl, idleFormula_exact htotal hidle hactive⟩
    case neg =>
      rw [if_neg htotal, if_neg fun h => htotal h.1]
      rfl

end Daemon

section Collector

/-- `QByteArray::toULongLong` reads decimal digits whose value fits. -/
def ReadsDigits (qt : QtNumbers) : Prop :=
  ∀ digits value, Daemon.unsignedValue digits = some value → qt.toULongLong digits = some value

variable {qt : QtNumbers} {fields : List QByteArray} {times : List UInt64} {total idle : UInt64}
  {k : Nat} {result : List (QString × Counters) × List QString}

theorem unsignedValue_digits (hqt : ReadsDigits qt) {digits : QByteArray} {value : UInt64}
    (h : Daemon.unsignedValue digits = some value) : unsignedValue qt digits = some value := by
  have hdigits := (numeric_of_unsignedValue h).2.1
  rw [unsignedValue, trimmed_of_forall fun c hc => isspace_of_isdigit (hdigits c hc)]
  exact hqt digits value h

/-- The times at the fourth and the fifth field. -/
def idleTimes (times : List UInt64) (k : Nat) : List UInt64 :=
  ((times.zipIdx k).filter fun time => time.2 = 4 ∨ time.2 = 5).map Prod.fst

theorem idleTimes_cons (time : UInt64) : idleTimes (time :: times) k =
    if k = 4 ∨ k = 5 then time :: idleTimes times (k + 1) else idleTimes times (k + 1) := by
  rw [idleTimes, List.zipIdx_cons, List.filter_cons]
  split_ifs <;> simp_all [idleTimes]

theorem idleTimes_beyond (hk : 6 ≤ k) : idleTimes times k = [] := by
  rw [idleTimes, List.map_eq_nil_iff, List.filter_eq_nil_iff]
  intro time htime
  have hle := List.le_snd_of_mem_zipIdx htime
  simp only [decide_eq_true_eq]
  omega

theorem idleTimes_one (hfive : 5 ≤ times.length) : idleTimes times 1 = (times.drop 3).take 2 := by
  match times, hfive with
  | a :: b :: c :: d :: e :: rest, _ =>
    simp [idleTimes_cons, idleTimes_beyond]

theorem not_room_lt {time : UInt64} (h : total.toNat + time.toNat < 2 ^ 64) :
    ¬ 0xffffffffffffffff - time < total := by
  have hmax : (0xffffffffffffffff : UInt64).toNat = 18446744073709551615 := by decide
  have htime := time.toNat_lt
  rw [UInt64.lt_iff_toNat_lt, UInt64.toNat_sub, hmax]
  omega

theorem addField_eq {sums : UInt64 × UInt64} {field : QByteArray × Nat} {time : UInt64}
    (h : unsignedValue qt field.1 = some time) (hroom : sums.1.toNat + time.toNat < 2 ^ 64) :
    addField qt sums field =
      some (sums.1 + time, if field.2 = 4 ∨ field.2 = 5 then sums.2 + time else sums.2) := by
  rw [addField, h, Option.bind_eq_bind, Option.bind_some, if_neg (not_room_lt hroom)]
  rfl

/-- The loop adds up the times as long as the sum fits. -/
theorem foldlM_addField (hqt : ReadsDigits qt)
    (hvalid : fields.map Daemon.unsignedValue = times.map some)
    (hfits : total.toNat + totalOf times < 2 ^ 64) :
    (fields.zipIdx k).foldlM (addField qt) (total, idle) =
      some (total + times.sum, idle + (idleTimes times k).sum) := by
  induction times generalizing fields total idle k with
  | nil =>
    obtain rfl : fields = [] := by simpa using hvalid
    simp [idleTimes]
  | cons time times ih =>
    cases fields with
    | nil => cases hvalid
    | cons field fields =>
      obtain ⟨hfield, hvalid⟩ := List.cons.inj hvalid
      rw [totalOf, List.map_cons, List.sum_cons] at hfits
      have hroom : total.toNat + time.toNat < 2 ^ 64 := by omega
      have hadd : (total + time).toNat = total.toNat + time.toNat := by
        rw [UInt64.toNat_add]
        exact Nat.mod_eq_of_lt hroom
      have hstep : addField qt (total, idle) (field, k) =
          some (total + time, if k = 4 ∨ k = 5 then idle + time else idle) :=
        addField_eq (unsignedValue_digits hqt hfield) hroom
      rw [List.zipIdx_cons, List.foldlM_cons, hstep, Option.bind_eq_bind, Option.bind_some,
        ih hvalid (by rw [hadd, totalOf]; omega), idleTimes_cons, List.sum_cons, UInt64.add_assoc]
      split <;> simp [UInt64.add_assoc]

/-- A line changes the counters of the processor that it names, if any. -/
theorem parseCpuLine_cases (qt : QtNumbers) (result : List (QString × Counters) × List QString)
    (line : QByteArray) : (parseCpuLine qt result line).1 = result.1 ∨
    ∃ counters name, (∀ first ∈ (words line).head?, name = fromLatin1 first) ∧ words line ≠ [] ∧
      (parseCpuLine qt result line).1 = hashInsert result.1 name counters := by
  unfold parseCpuLine
  by_cases hwords : words line = []
  case pos => simp [split_blank hwords, bytesOf]
  case neg =>
    rw [split_simplified hwords]
    dsimp only
    split_ifs
    · exact .inl rfl
    · exact .inl rfl
    · split
      · split_ifs
        · exact .inl rfl
        · refine .inr ⟨_, _, fun first hfirst => ?_, hwords, rfl⟩
          rw [List.headD_eq_head?_getD, Option.mem_def.mp hfirst, Option.getD_some]
      · exact .inl rfl

theorem nodup_parseCpuLine {line : QByteArray} (h : (result.1.map Prod.fst).Nodup) :
    ((parseCpuLine qt result line).1.map Prod.fst).Nodup := by
  rcases parseCpuLine_cases qt result line with heq | ⟨_, _, -, -, heq⟩
  · rwa [heq]
  · rw [heq]
    exact nodup_hashInsert h

theorem parseCpuLine_named {line : QByteArray} (h : Named line) :
    hashValue (parseCpuLine qt result line).1 "cpu" = hashValue result.1 "cpu" := by
  rcases parseCpuLine_cases qt result line with heq | ⟨_, _, hname, hne, heq⟩
  · rw [heq]
  · obtain ⟨first, rest, hwords⟩ := List.exists_cons_of_ne_nil hne
    have hfirst : first ∈ (words line).head? := by simp [hwords]
    rw [heq, hashValue_insert, if_neg]
    intro hcpu
    rw [hname first hfirst] at hcpu
    have hlatin : fromLatin1 (lit "cpu") = "cpu" := by decide +kernel
    exact (h first hfirst).1 (fromLatin1_injective (hcpu.trans hlatin.symm))

/-- The counters that the collector keeps. -/
def counted (times : List UInt64) : Counters :=
  ⟨(summed times).1 - (summed times).2, (summed times).1⟩

theorem words_aggregate (stat : ProcStat) : words stat.line = lit "cpu" :: words (stat.line.drop 4) := by
  obtain ⟨counters, hline⟩ := stat.aggregate
  have happend : stat.line = lit "cpu" ++ 0x20 :: counters := hline.symm
  have hname : words (lit "cpu") = [lit "cpu"] := by decide +kernel
  rw [happend, words_append_cons _ _ (by decide), hname]
  rfl

theorem parseCpuLine_aggregate (hqt : ReadsDigits qt) (stat : ProcStat) :
    (parseCpuLine qt result stat.line).1 = hashInsert result.1 "cpu" (counted stat.times) := by
  have hwords := words_aggregate stat
  have hlength : (words (stat.line.drop 4)).length = stat.times.length := by
    simpa using congrArg List.length stat.valid
  have hsum : ((words (stat.line.drop 4)).zipIdx 1).foldlM (addField qt) (0, 0) =
      some (summed stat.times) := by
    rw [foldlM_addField hqt stat.valid (by simpa using stat.fits), idleTimes_one stat.five]
    simp [summed]
  have hidle : ¬ (summed stat.times).1 < (summed stat.times).2 := by
    obtain ⟨htotal, hidle⟩ := toNat_summed stat.fits
    rw [UInt64.lt_iff_toNat_lt, htotal, hidle]
    exact (idleOf_le stat.times).not_gt
  have hfive := stat.five
  unfold parseCpuLine
  rw [split_simplified (by simp [hwords]), hwords]
  dsimp only
  rw [List.headD_cons, if_neg (by decide +kernel), if_neg (by rw [List.length_cons]; omega),
    List.zipIdx_cons, List.drop_one, List.tail_cons, hsum]
  simp only [if_neg hidle]
  rfl

theorem hashValue_parseCpu (hqt : ReadsDigits qt) (stat : ProcStat) :
    hashValue (parseCpu qt stat.contents).1 "cpu" = some (counted stat.times) := by
  have hothers : ∀ (others : List (List UInt8)) (result : List (QString × Counters) × List QString),
      (∀ other ∈ others, Named other) →
        hashValue (others.foldl (parseCpuLine qt) result).1 "cpu" = hashValue result.1 "cpu" := by
    intro others
    induction others with
    | nil => exact fun _ _ => rfl
    | cons other others ih =>
      intro result hnamed
      obtain ⟨hother, hothers⟩ := List.forall_mem_cons.mp hnamed
      rw [List.foldl_cons, ih _ hothers, parseCpuLine_named hother]
  rw [parseCpu, QByteArray.split, stat.lines, List.foldl_cons, hothers _ _ stat.named,
    parseCpuLine_aggregate hqt, hashValue_insert, if_pos rfl]

theorem nodup_parseCpu (contents : QByteArray) :
    ((parseCpu qt contents).1.map Prod.fst).Nodup := by
  have hlines : ∀ (lines : List QByteArray) (result : List (QString × Counters) × List QString),
      (result.1.map Prod.fst).Nodup →
        ((lines.foldl (parseCpuLine qt) result).1.map Prod.fst).Nodup := by
    intro lines
    induction lines with
    | nil => exact fun _ h => h
    | cons line lines ih => exact fun _ h => ih _ (nodup_parseCpuLine h)
  exact hlines _ _ List.nodup_nil

variable {order₁ order₂ : HashOrder} {sort₁ sort₂ : VolumeSort}
  {access₁ access₂ : LinuxSysMetricsAccess} {collector : LinuxSysMetricsCollector}
  {before now : ProcStat}

/-- What two collections report of the usage. -/
theorem collected_usage (hqt : ReadsDigits qt)
    (hbefore : access₁.readFile "/proc/stat" kProcLimit = some before.contents)
    (hnow : access₂.readFile "/proc/stat" kProcLimit = some now.contents) :
    (collect qt order₂ sort₂ (collect qt order₁ sort₁ collector access₁).1
        access₂).2.metrics.cpu.usageRatio =
      (usage (counted now.times) (counted before.times)).1 := by
  have hentries : (cpuEntries qt order₂ access₂).1 = order₂.apply (parseCpu qt now.contents).1 := by
    rw [cpuEntries, hnow]
  have hvalue : hashValue (order₂.apply (parseCpu qt now.contents).1) "cpu" =
      some (counted now.times) := by
    rw [hashValue_perm (nodup_parseCpu _) (order₂.perm _), hashValue_parseCpu hqt]
  obtain ⟨entry, hfind, hcounted⟩ := Option.map_eq_some_iff.mp hvalue
  have hprevious : hashValue (collect qt order₁ sort₁ collector access₁).1.cpuCounters entry.1 =
      some (counted before.times) := by
    rw [Keyed.key_of_find hfind, collect, hbefore]
    exact hashValue_parseCpu hqt before
  have husage : usageSince (collect qt order₁ sort₁ collector access₁).1 entry =
      usage (counted now.times) (counted before.times) := by
    rw [usageSince, hprevious, hcounted]
  have hcollected : (collect qt order₂ sort₂ (collect qt order₁ sort₁ collector access₁).1
      access₂).2.metrics.cpu.usageRatio =
        ((cpuEntries qt order₂ access₂).1.find? fun entry => entry.1 = "cpu").bind fun entry =>
          (usageSince (collect qt order₁ sort₁ collector access₁).1 entry).1 := rfl
  have hfound : (order₂.apply (parseCpu qt now.contents).1).find? (fun entry => entry.1 = "cpu") =
      some entry := hfind
  rw [hcollected, hentries, hfound, Option.bind_some, husage]

/-- Two collections report the share. -/
def CollectorAgrees (qt : QtNumbers) (before now : ProcStat) : Prop :=
  ∀ (order₁ order₂ : HashOrder) (sort₁ sort₂ : VolumeSort) (access₁ access₂ : LinuxSysMetricsAccess)
    (collector : LinuxSysMetricsCollector),
    access₁.readFile "/proc/stat" kProcLimit = some before.contents →
    access₂.readFile "/proc/stat" kProcLimit = some now.contents →
    Reports
      (collect qt order₂ sort₂ (collect qt order₁ sort₁ collector access₁).1
        access₂).2.metrics.cpu.usageRatio
      (activeFormula · (counted before.times) (counted now.times)) (share before now)

theorem toNat_counted (stat : ProcStat) :
    (counted stat.times).total.toNat = totalOf stat.times ∧
      (counted stat.times).active.toNat = activeOf stat.times := by
  obtain ⟨htotal, hidle⟩ := toNat_summed stat.fits
  refine ⟨htotal, ?_⟩
  have hle : (summed stat.times).2 ≤ (summed stat.times).1 := by
    rw [UInt64.le_iff_toNat_le, htotal, hidle]
    exact idleOf_le stat.times
  rw [counted, UInt64.toNat_sub_of_le _ _ hle, htotal, hidle, activeOf]

theorem collectorAgrees (hqt : ReadsDigits qt) (before now : ProcStat) :
    CollectorAgrees qt before now := by
  intro order₁ order₂ sort₁ sort₂ access₁ access₂ collector hbefore hnow
  obtain ⟨htotalBefore, hactiveBefore⟩ := toNat_counted before
  obtain ⟨htotalNow, hactiveNow⟩ := toNat_counted now
  have htotals := total_eq before
  have htotals' := total_eq now
  rw [collected_usage hqt hbefore hnow, usage_eq, share]
  by_cases hforward : totalOf before.times < totalOf now.times ∧
      activeOf before.times ≤ activeOf now.times
  case pos =>
    obtain ⟨htotal, hactive⟩ := hforward
    have htotalWords : (counted before.times).total < (counted now.times).total := by
      rwa [UInt64.lt_iff_toNat_lt, htotalBefore, htotalNow]
    have hactiveWords : (counted before.times).active ≤ (counted now.times).active := by
      rwa [UInt64.le_iff_toNat_le, hactiveBefore, hactiveNow]
    have htotalDelta := UInt64.toNat_sub_of_le _ _ (UInt64.le_of_lt htotalWords)
    have hactiveDelta := UInt64.toNat_sub_of_le _ _ hactiveWords
    rw [htotalBefore, htotalNow] at htotalDelta
    rw [hactiveBefore, hactiveNow] at hactiveDelta
    -- The active time grows by more than the total just if the idle time goes back.
    have hidle : (counted now.times).active - (counted before.times).active ≤
        (counted now.times).total - (counted before.times).total ↔
          idleOf before.times ≤ idleOf now.times := by
      rw [UInt64.le_iff_toNat_le, htotalDelta, hactiveDelta]
      omega
    by_cases hback : idleOf before.times ≤ idleOf now.times
    case pos =>
      rw [if_pos ⟨htotalWords, hactiveWords, hidle.mpr hback⟩, if_pos ⟨htotal, hback, hactive⟩]
      refine ⟨rfl, ?_⟩
      simp only [activeFormula, Numbers.exact, htotalDelta, hactiveDelta, Nat.cast_sub htotal.le,
        Nat.cast_sub hactive]
    case neg =>
      rw [if_neg fun h => hback (hidle.mp h.2.2), if_neg fun h => hback h.2.1]
      rfl
  case neg =>
    have hwords : ¬ ((counted before.times).total < (counted now.times).total ∧
        (counted before.times).active ≤ (counted now.times).active) := by
      rwa [UInt64.lt_iff_toNat_lt, UInt64.le_iff_toNat_le, htotalBefore, htotalNow, hactiveBefore,
        hactiveNow]
    rw [if_neg fun h => hwords ⟨h.1, h.2.1⟩, if_neg fun h => hforward ⟨h.1, h.2.2⟩]
    rfl

/-- Both report the share just if, when the total has grown, neither the idle nor the active time
has gone back: the daemon does not look at these. -/
theorem cpu_usage_iff (hqt : ReadsDigits qt) (before now : ProcStat) :
    (DaemonAgrees before now ∧ CollectorAgrees qt before now) ↔
      (totalOf before.times < totalOf now.times →
        idleOf before.times ≤ idleOf now.times ∧ activeOf before.times ≤ activeOf now.times) := by
  rw [daemonAgrees_iff, and_iff_left (collectorAgrees hqt before now)]

/-- A reading with an aggregate line and the end of the file. -/
def oneLine (line : String) (times : List UInt64)
    (h : (lit (line ++ "\n")).splitOn 0x0a = [lit line, []] ∧ lit "cpu " <+: lit line ∧
      (words ((lit line).drop 4)).map Daemon.unsignedValue = times.map some ∧ 5 ≤ times.length ∧
      totalOf times < 2 ^ 64 ∧ (lit (line ++ "\n")).length ≤ Daemon.kProcLimit) : ProcStat where
  contents := lit (line ++ "\n")
  times := times
  line := lit line
  others := [[]]
  lines := h.1
  aggregate := h.2.1
  valid := h.2.2.1
  five := h.2.2.2.1
  fits := h.2.2.2.2.1
  small := h.2.2.2.2.2
  named := by decide

def earlier : ProcStat := oneLine "cpu  10 0 0 100 50" [10, 0, 0, 100, 50] (by decide +kernel)

/-- Time spent waiting for input and output can go back. -/
def later : ProcStat := oneLine "cpu  20 0 0 100 45" [20, 0, 0, 100, 45] (by decide +kernel)

theorem waiting_reported :
    ¬ ∀ before now, DaemonAgrees before now ∧ ∀ qt, ReadsDigits qt → CollectorAgrees qt before now := by
  intro h
  have hforward := daemonAgrees_iff.mp (h earlier later).1 (by decide)
  exact absurd hforward (by decide)

/-- Numbers as Qt reads them where they are plain digits. -/
def plainNumbers : QtNumbers where
  fromUtf8 := fromLatin1
  toLower := id
  toUpper := id
  sameLetters a b := a = b
  toULongLong := Daemon.unsignedValue
  toDouble _ := none

theorem cpu_usage_sample :
    (DaemonAgrees earlier later ∧ CollectorAgrees plainNumbers earlier later) ↔
      (totalOf earlier.times < totalOf later.times →
        idleOf earlier.times ≤ idleOf later.times ∧
          activeOf earlier.times ≤ activeOf later.times) :=
  cpu_usage_iff (fun _ _ h => h) earlier later

end Collector

end RpiDashboard.Sysmetrics
