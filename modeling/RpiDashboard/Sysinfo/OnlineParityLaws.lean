import RpiDashboard.Daemon.CpuListLaws
import RpiDashboard.Sysinfo.LinuxSysInfoCollector
import RpiDashboard.Sysmetrics.CollectorLaws

/-! The list of processors, as the daemon and the collector read it. -/

namespace RpiDashboard.Sysinfo

open Qt Daemon

/-- `QByteArray::toULongLong` reads decimal digits if their value fits, and fails otherwise. -/
def ReadsDigits (qt : QtUnicode) : Prop :=
  ∀ digits, numeric digits → qt.toULongLong digits = Daemon.unsignedValue digits

section Entries

/-- An entry with white space around its dash. -/
structure PaddedEntry where
  entry : CpuEntry
  before : QByteArray
  after : QByteArray
  white : ∀ c ∈ before ++ after, QByteArray.isSpace c

def PaddedEntry.text (padded : PaddedEntry) : QByteArray :=
  padded.entry.first ++
    padded.entry.last.elim [] fun last => padded.before ++ 0x2d :: (padded.after ++ last)

variable {qt : QtUnicode} {s : QByteArray} {maximum n : Nat} {range : List Nat}

theorem cut_eq_idxOf (c : UInt8) (s : QByteArray) :
    cut c s = (s.idxOf? c).map fun i => (s.take i, s.drop (i + 1)) := by
  induction s with
  | nil => rfl
  | cons d s ih =>
    rw [cut, List.idxOf?_cons]
    split
    case isTrue h => simp [h]
    case isFalse h => simp [h, ih, Function.comp_def]

theorem bare_of_numeric (h : numeric s) : Bare QByteArray.isSpace s :=
  bare_of_forall fun c hc => isspace_of_isdigit ((numeric_iff.mp h).2 c hc)

theorem unsignedValue_eq_some (hqt : ReadsDigits qt) (hmaximum : maximum < 2 ^ 64) :
    unsignedValue qt s maximum = some n ↔
      numeric (QByteArray.trimmed s) ∧ decimal (QByteArray.trimmed s) = n ∧ n ≤ maximum := by
  have hguard : (QByteArray.trimmed s = [] ∨ !(QByteArray.trimmed s).all isdigit) ↔
      ¬ numeric (QByteArray.trimmed s) := by
    simp [numeric, or_iff_not_imp_left]
  have hvalue : unsignedValue qt s maximum =
      if ¬ numeric (QByteArray.trimmed s) then none
      else (qt.toULongLong (QByteArray.trimmed s)).bind fun parsed =>
        if maximum < parsed.toNat then none else some parsed.toNat := if_congr hguard rfl rfl
  by_cases hs : numeric (QByteArray.trimmed s)
  · rw [hvalue, if_neg (not_not.mpr hs), hqt _ hs, Daemon.unsignedValue]
    split
    case isTrue hlt =>
      rw [Option.bind_some, UInt64.toNat_ofNat_of_lt' hlt.2, Option.ite_none_left_eq_some,
        Option.some_inj, Nat.not_lt]
      grind
    case isFalse hlt =>
      have hlarge : 2 ^ 64 ≤ decimal (QByteArray.trimmed s) :=
        Nat.not_lt.mp fun h => hlt ⟨hs, h⟩
      simp
      omega
  · rw [hvalue, if_pos hs]
    simp [hs]

theorem cpuRange_spec : cpuRange qt s = some range ↔
    ∃ first last, s ≠ [] ∧ QByteArray.trimmed s = s ∧ s.count 0x2d ≤ 1 ∧
      unsignedValue qt ((cut 0x2d s).getD (s, s)).1 kMaximumCpuId = some first ∧
      unsignedValue qt ((cut 0x2d s).getD (s, s)).2 kMaximumCpuId = some last ∧
      first ≤ last ∧ last - first + 1 ≤ kMaximumCpuCount ∧
      List.range' first (last - first + 1) = range := by
  have hparts : ((cut 0x2d s).getD (s, s)).1 = (s.idxOf? 0x2d).elim s s.take ∧
      ((cut 0x2d s).getD (s, s)).2 = (s.idxOf? 0x2d).elim s fun i => s.drop (i + 1) := by
    rw [cut_eq_idxOf]
    cases s.idxOf? 0x2d <;> exact ⟨rfl, rfl⟩
  rw [hparts.1, hparts.2, cpuRange]
  simp only [Option.bind_eq_bind, Option.ite_none_left_eq_some, Option.bind_eq_some_iff, not_or,
    not_lt, pure, Option.some_inj]
  grind

theorem trimmed_pads {before after : QByteArray} (hb : ∀ c ∈ before, QByteArray.isSpace c)
    (ha : ∀ c ∈ after, QByteArray.isSpace c) (hs : numeric s) :
    QByteArray.trimmed (before ++ s ++ after) = s := strip_append hb ha (bare_of_numeric hs)

theorem PaddedEntry.trimmed_text (padded : PaddedEntry) :
    QByteArray.trimmed padded.text = padded.text := by
  have hfirst := padded.entry.numericFirst
  refine strip_of_bare ?_
  rw [PaddedEntry.text]
  cases hlast : padded.entry.last with
  | none => simpa using bare_of_numeric hfirst
  | some last =>
    have hnumeric : numeric last := padded.entry.numericLast last hlast
    simpa using bare_between (bare_of_numeric hfirst) (numeric_iff.mp hfirst).1
      (bare_of_numeric hnumeric) (numeric_iff.mp hnumeric).1 (padded.before ++ 0x2d :: padded.after)

theorem notMem_white {white : QByteArray} (h : ∀ c ∈ white, QByteArray.isSpace c) {c : UInt8}
    (hc : QByteArray.isSpace c = false) : c ∉ white := fun hmem => by
  simp [h c hmem] at hc

/-- In an entry without white space at its ends, it can only stand around the dash. -/
theorem exists_pads {front back : QByteArray}
    (h : QByteArray.trimmed (front ++ 0x2d :: back) = front ++ 0x2d :: back) :
    ∃ before after, front = QByteArray.trimmed front ++ before ∧
      back = after ++ QByteArray.trimmed back ∧ ∀ c ∈ before ++ after, QByteArray.isSpace c := by
  obtain ⟨none₁, before, hfront, hnone₁, hbefore⟩ := exists_strip QByteArray.isSpace front
  obtain ⟨after, none₂, hback, hafter, hnone₂⟩ := exists_strip QByteArray.isSpace back
  have hbare : Bare QByteArray.isSpace (front ++ 0x2d :: back) := h ▸ bare_strip _ _
  obtain rfl : none₁ = [] := by
    rw [hfront, List.append_assoc, List.append_assoc] at hbare
    exact hbare.front_nil hnone₁
  obtain rfl : none₂ = [] := by
    rw [hback, List.append_cons, ← List.append_assoc] at hbare
    exact hbare.back_nil hnone₂
  rw [List.append_nil] at hback
  refine ⟨before, after, hfront, hback, fun c hc => ?_⟩
  exact (List.mem_append.mp hc).elim (hbefore c) (hafter c)

/-- Its parts at the dash, without the white space. -/
theorem PaddedEntry.trimmed_cut (padded : PaddedEntry) :
    QByteArray.trimmed ((cut 0x2d padded.text).getD (padded.text, padded.text)).1 =
        padded.entry.first ∧
      QByteArray.trimmed ((cut 0x2d padded.text).getD (padded.text, padded.text)).2 =
        padded.entry.last.getD padded.entry.first ∧
      padded.text.count 0x2d ≤ 1 := by
  have hfirst := padded.entry.numericFirst
  have hdash : 0x2d ∉ padded.entry.first := notMem_of_numeric hfirst (by decide)
  have hnone : (∀ c ∈ ([] : QByteArray), QByteArray.isSpace c) := by simp
  obtain ⟨hbefore, hafter⟩ := List.forall_mem_append.mp padded.white
  cases hlast : padded.entry.last with
  | none =>
    have htext : padded.text = padded.entry.first := by simp [PaddedEntry.text, hlast]
    have htrim : QByteArray.trimmed padded.entry.first = padded.entry.first := by
      simpa using trimmed_pads hnone hnone hfirst
    rw [htext, cut_eq_none_iff.mpr hdash, List.count_eq_zero_of_not_mem hdash]
    exact ⟨htrim, htrim, Nat.zero_le _⟩
  | some last =>
    have hnumeric : numeric last := padded.entry.numericLast last hlast
    have htext : padded.text =
        (padded.entry.first ++ padded.before) ++ 0x2d :: (padded.after ++ last) := by
      simp [PaddedEntry.text, hlast]
    have hfront : 0x2d ∉ padded.entry.first ++ padded.before :=
      List.mem_append.not.mpr (not_or.mpr ⟨hdash, notMem_white hbefore (by decide)⟩)
    have hback : 0x2d ∉ padded.after ++ last :=
      List.mem_append.not.mpr (not_or.mpr ⟨notMem_white hafter (by decide),
        notMem_of_numeric hnumeric (by decide)⟩)
    rw [htext, cut_append hfront, List.count_append, List.count_eq_zero_of_not_mem hfront,
      List.count_cons_self, List.count_eq_zero_of_not_mem hback]
    refine ⟨?_, ?_, le_refl _⟩
    · simpa using trimmed_pads hnone hbefore hfirst
    · simpa using trimmed_pads hafter hnone hnumeric

theorem cpuRange_eq_some (hqt : ReadsDigits qt) : cpuRange qt s = some range ↔
    ∃ padded : PaddedEntry, padded.text = s ∧ padded.entry.ids = range ∧
      range.length ≤ kMaximumCpuCount := by
  have hbound : kMaximumCpuId < 2 ^ 64 := by decide
  simp only [cpuRange_spec, unsignedValue_eq_some hqt hbound]
  constructor
  · rintro ⟨first, last, hne, htrim, hcount, ⟨hfirst, rfl, -⟩, ⟨hlast, rfl, hsmall⟩, hle, hfew, rfl⟩
    cases hcut : cut 0x2d s with
    | none =>
      simp only [hcut, Option.getD_none, htrim] at hfirst hsmall hfew ⊢
      refine ⟨⟨⟨s, none, hfirst, by simp, le_refl _, hsmall⟩, [], [], by simp⟩, ?_, ?_, ?_⟩
      · simp [PaddedEntry.text]
      · simp [CpuEntry.ids]
      · simpa using hfew
    | some parts =>
      obtain ⟨front, back⟩ := parts
      obtain ⟨rfl, -⟩ := cut_eq_some_iff.mp hcut
      obtain ⟨before, after, hfront, hback, hwhite⟩ := exists_pads htrim
      simp only [hcut, Option.getD_some] at hfirst hlast hsmall hle hfew ⊢
      refine ⟨⟨⟨QByteArray.trimmed front, some (QByteArray.trimmed back), hfirst,
        by simpa using hlast, hle, hsmall⟩, before, after, hwhite⟩, ?_, ?_, ?_⟩
      · rw [PaddedEntry.text, Option.elim_some, ← hback, ← List.append_assoc, ← hfront]
      · simp [CpuEntry.ids, Nat.sub_add_comm hle]
      · simpa using hfew
  · rintro ⟨padded, rfl, rfl, hcount⟩
    have htrim := padded.trimmed_text
    have hne : padded.text ≠ [] := by
      simp [PaddedEntry.text, (numeric_iff.mp padded.entry.numericFirst).1]
    obtain ⟨hfirst, hlast, hdashes⟩ := padded.trimmed_cut
    have hle := padded.entry.ordered
    have hsmall := padded.entry.bounded
    rw [CpuEntry.length_ids, Nat.sub_add_comm hle] at hcount
    rw [hfirst, hlast]
    have hnumeric : numeric (padded.entry.last.getD padded.entry.first) := by
      cases hdigits : padded.entry.last with
      | none => exact padded.entry.numericFirst
      | some digits => exact padded.entry.numericLast digits hdigits
    exact ⟨_, _, hne, htrim, hdashes, ⟨padded.entry.numericFirst, rfl, le_trans hle hsmall⟩,
      ⟨hnumeric, rfl, hsmall⟩, hle, hcount, by rw [CpuEntry.ids, Nat.sub_add_comm hle]⟩

end Entries

section Online

/-- A list as the collector reads it. -/
structure PaddedList where
  entries : List PaddedEntry
  nonempty : entries ≠ []
  countable : Countable (entries.flatMap fun padded => padded.entry.ids)

def PaddedList.text (list : PaddedList) : QByteArray :=
  [0x2c].intercalate (list.entries.map PaddedEntry.text)

def PaddedList.ids (list : PaddedList) : List Nat :=
  list.entries.flatMap fun padded => padded.entry.ids

/-- White space in a list stands at its ends only, and is of the kinds that the daemon takes off. -/
def OnlineRegular (contents : QByteArray) : Prop :=
  ∀ list : PaddedList, QByteArray.trimmed contents = list.text →
    (∀ c ∈ QByteArray.trimmed contents, QByteArray.isSpace c = false) ∧
      ∀ c ∈ contents, c ≠ 0x0b ∧ c ≠ 0x0c

variable {qt : QtUnicode} {contents : QByteArray} {ids : List Nat}

theorem mem_intercalate {c separator : UInt8} (hc : c ≠ separator) {pieces : List QByteArray} :
    c ∈ [separator].intercalate pieces ↔ ∃ piece ∈ pieces, c ∈ piece := by
  induction pieces with
  | nil => simp
  | cons piece pieces ih =>
    cases pieces with
    | nil => simp
    | cons next pieces =>
      rw [List.intercalate_cons_cons, List.mem_append, List.mem_append, ih]
      simp [hc]

theorem noWhite_entry (entry : CpuEntry) : ∀ c ∈ entry.text, QByteArray.isSpace c = false := by
  have hdigits {digits : QByteArray} (h : numeric digits) :
      ∀ c ∈ digits, QByteArray.isSpace c = false := fun c hc =>
    isspace_of_isdigit ((numeric_iff.mp h).2 c hc)
  rw [CpuEntry.text, List.forall_mem_append]
  refine ⟨hdigits entry.numericFirst, ?_⟩
  cases hlast : entry.last with
  | none => simp
  | some last =>
    exact List.forall_mem_cons.mpr ⟨by decide, hdigits (entry.numericLast last hlast)⟩

theorem noWhite_list (list : CpuList) : ∀ c ∈ list.text, QByteArray.isSpace c = false := by
  intro c hc
  by_cases hcomma : c = 0x2c
  · rw [hcomma]
    rfl
  · obtain ⟨piece, hpiece, hmem⟩ := (mem_intercalate hcomma).mp hc
    obtain ⟨entry, -, rfl⟩ := List.mem_map.mp hpiece
    exact noWhite_entry entry c hmem

/-- Without white space, an entry is one of the daemon's. -/
theorem PaddedEntry.text_plain (padded : PaddedEntry)
    (h : ∀ c ∈ padded.text, QByteArray.isSpace c = false) : padded.text = padded.entry.text := by
  rw [PaddedEntry.text, CpuEntry.text] at *
  cases hlast : padded.entry.last with
  | none => rfl
  | some last =>
    have hnil {white : QByteArray} (hwhite : ∀ c ∈ white, QByteArray.isSpace c)
        (hmem : ∀ c ∈ white, QByteArray.isSpace c = false) : white = [] :=
      List.eq_nil_iff_forall_not_mem.mpr fun c hc => by simpa [hwhite c hc] using hmem c hc
    simp only [hlast, Option.elim_some] at h
    obtain ⟨hbefore, hafter⟩ := List.forall_mem_append.mp padded.white
    rw [hnil hbefore fun c hc => h c (by simp [hc]), hnil hafter fun c hc => h c (by simp [hc])]
    rfl

theorem PaddedList.exists_plain (list : PaddedList)
    (h : ∀ c ∈ list.text, QByteArray.isSpace c = false) :
    ∃ plain : CpuList, plain.text = list.text ∧ plain.ids = list.ids := by
  refine ⟨⟨list.entries.map PaddedEntry.entry, by simpa using list.nonempty,
    by simpa [List.flatMap_map] using list.countable⟩, ?_, ?_⟩
  · rw [CpuList.text, PaddedList.text, List.map_map]
    congr 1
    refine List.map_congr_left fun padded hpadded => (padded.text_plain fun c hc => ?_).symm
    by_cases hspace : QByteArray.isSpace c
    · have hcomma : c ≠ 0x2c := by
        rintro rfl
        exact absurd hspace (by decide)
      exact h c ((mem_intercalate hcomma).mpr ⟨_, List.mem_map_of_mem hpadded, hc⟩)
    · simpa using hspace
  · simp [CpuList.ids, PaddedList.ids, List.flatMap_map]

theorem exists_padded (list : CpuList) :
    ∃ padded : PaddedList, padded.text = list.text ∧ padded.ids = list.ids := by
  refine ⟨⟨list.entries.map fun entry => ⟨entry, [], [], by simp⟩, by simpa using list.nonempty,
    by simpa [List.flatMap_map] using list.countable⟩, ?_, ?_⟩
  · rw [CpuList.text, PaddedList.text, List.map_map]
    congr 1
  · simp [CpuList.ids, PaddedList.ids, List.flatMap_map]

theorem PaddedEntry.notMem_text (padded : PaddedEntry) : 0x2c ∉ padded.text := by
  obtain ⟨hbefore, hafter⟩ := List.forall_mem_append.mp padded.white
  have hfirst : 0x2c ∉ padded.entry.first :=
    notMem_of_numeric padded.entry.numericFirst (by decide)
  rw [PaddedEntry.text, List.mem_append, not_or]
  refine ⟨hfirst, ?_⟩
  cases hlast : padded.entry.last with
  | none => simp
  | some last =>
    have hnumeric : 0x2c ∉ last :=
      notMem_of_numeric (padded.entry.numericLast last hlast) (by decide)
    simp [notMem_white hbefore (c := 0x2c) (by decide), hnumeric,
      notMem_white hafter (c := 0x2c) (by decide)]

theorem adds_ranges (hqt : ReadsDigits qt) : Adds PaddedEntry.text (fun padded => padded.entry.ids)
    fun ids entry => (cpuRange qt entry).bind fun range => range.foldlM addCpu ids := by
  intro ids s r h
  rw [Option.bind_eq_some_iff]
  constructor
  · rintro ⟨range, hrange, hfold⟩
    obtain ⟨padded, rfl, rfl, -⟩ := (cpuRange_eq_some hqt).mp hrange
    exact ⟨padded, rfl, (foldlM_addCpu h).mp hfold⟩
  · rintro ⟨padded, rfl, rfl, hall⟩
    have hcount : padded.entry.ids.length ≤ kMaximumCpuCount := le_trans (by simp) hall.few
    exact ⟨_, (cpuRange_eq_some hqt).mpr ⟨padded, rfl, rfl, hcount⟩,
      (foldlM_addCpu h).mpr ⟨rfl, hall⟩⟩

theorem onlineCpuIds_eq_some (hqt : ReadsDigits qt) : onlineCpuIds qt contents = some ids ↔
    ∃ list : PaddedList, QByteArray.trimmed contents = list.text ∧ list.ids = ids := by
  rw [onlineCpuIds, QByteArray.split, (adds_ranges hqt).splitOn PaddedEntry.notMem_text
    fun padded => padded.entry.ids_ne_nil]
  constructor
  · rintro ⟨entries, hne, hall, htext, hids⟩
    exact ⟨⟨entries, hne, hall⟩, htext, hids⟩
  · rintro ⟨list, htext, hids⟩
    exact ⟨list.entries, list.nonempty, list.countable, htext, hids⟩

theorem isSpace_of_blank (c : UInt8) (h : blank c) : QByteArray.isSpace c := by
  simp only [blank, QByteArray.isSpace, Bool.or_eq_true, decide_eq_true_eq] at h ⊢
  rcases h with ((rfl | rfl) | rfl) | rfl <;> decide

theorem blank_of_isSpace {c : UInt8} (h : QByteArray.isSpace c) (hc : c ≠ 0x0b ∧ c ≠ 0x0c) :
    blank c := by
  have hall : ∀ n < 256, QByteArray.isSpace (UInt8.ofNat n) → UInt8.ofNat n ≠ 0x0b →
      UInt8.ofNat n ≠ 0x0c → blank (UInt8.ofNat n) := by decide +kernel
  simpa using hall c.toNat c.toNat_lt (by simpa using h) (by simpa using hc.1) (by simpa using hc.2)

/-- What the daemon reads, the collector reads as well. -/
theorem trimmed_of_plain {list : CpuList} (h : trim contents = list.text) :
    QByteArray.trimmed contents = list.text := by
  have hbare : Bare QByteArray.isSpace (strip blank contents) :=
    bare_of_forall fun c hc => noWhite_list list c (h ▸ hc)
  exact (strip_mono (fun c _ => isSpace_of_blank c) hbare).trans h

theorem online_agree_iff (hqt : ReadsDigits qt) :
    onlineCpuIds qt contents = Daemon.onlineCpuIds contents ↔ OnlineRegular contents := by
  constructor
  · intro hagree list htext
    have hread : onlineCpuIds qt contents = some list.ids :=
      (onlineCpuIds_eq_some hqt).mpr ⟨list, htext, rfl⟩
    obtain ⟨plain, hplain, -⟩ := Daemon.onlineCpuIds_eq_some.mp (hagree.symm.trans hread)
    rw [trimmed_of_plain hplain]
    refine ⟨noWhite_list plain, fun c hc => ?_⟩
    obtain ⟨before, after, hsplit, hbefore, hafter⟩ := exists_strip blank contents
    have hstrip : strip blank contents = plain.text := hplain
    rw [hsplit, hstrip, List.mem_append, List.mem_append] at hc
    have hne : ¬ blank 0x0b ∧ ¬ blank 0x0c := by decide
    rcases hc with (hc | hc) | hc
    · exact ⟨fun h => hne.1 (h ▸ hbefore c hc), fun h => hne.2 (h ▸ hbefore c hc)⟩
    · have hspace := noWhite_list plain c hc
      constructor <;> rintro rfl <;> exact absurd hspace (by decide)
    · exact ⟨fun h => hne.1 (h ▸ hafter c hc), fun h => hne.2 (h ▸ hafter c hc)⟩
  · intro hregular
    refine Option.ext fun ids => ?_
    rw [onlineCpuIds_eq_some hqt, Daemon.onlineCpuIds_eq_some]
    constructor
    · rintro ⟨list, htext, rfl⟩
      obtain ⟨hwhite, hkinds⟩ := hregular list htext
      obtain ⟨plain, hplain, hids⟩ := list.exists_plain (htext ▸ hwhite)
      refine ⟨plain, ?_, hids⟩
      have hbare : Bare blank (strip QByteArray.isSpace contents) :=
        bare_of_forall fun c hc => by
          have hspace : QByteArray.isSpace c = false := hwhite c hc
          by_contra hblank
          rw [isSpace_of_blank c (by simpa using hblank)] at hspace
          cases hspace
      exact (strip_mono (fun c hc h => blank_of_isSpace h (hkinds c hc)) hbare).trans
        (htext.trans hplain.symm)
    · rintro ⟨list, htext, rfl⟩
      obtain ⟨padded, hpadded, hids⟩ := exists_padded list
      exact ⟨padded, (trimmed_of_plain htext).trans hpadded.symm, hids⟩

end Online

end RpiDashboard.Sysinfo
