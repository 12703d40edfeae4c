import RpiDashboard.Daemon.TextLaws
import RpiDashboard.Data.Strip

/-! The lists of processors that the daemon reads: how they are written, and what they name. -/

namespace RpiDashboard.Daemon

section Grammar

/-- One processor, or the first and the last of a range, in decimal digits. -/
structure CpuEntry where
  first : StdString
  last : Option StdString
  numericFirst : numeric first
  numericLast : ∀ digits ∈ last, numeric digits
  ordered : decimal first ≤ decimal (last.getD first)
  bounded : decimal (last.getD first) ≤ kMaximumCpuId

def CpuEntry.text (entry : CpuEntry) : StdString :=
  entry.first ++ entry.last.elim [] (0x2d :: ·)

/-- The processors from the first to the last. -/
def CpuEntry.ids (entry : CpuEntry) : List Nat :=
  List.range' (decimal entry.first)
    (decimal (entry.last.getD entry.first) + 1 - decimal entry.first)

/-- Few processors, and none twice. -/
structure Countable (ids : List Nat) : Prop where
  few : ids.length ≤ kMaximumCpuCount
  distinct : ids.Nodup

structure CpuList where
  entries : List CpuEntry
  nonempty : entries ≠ []
  countable : Countable (entries.flatMap CpuEntry.ids)

def CpuList.text (list : CpuList) : StdString := [0x2c].intercalate (list.entries.map CpuEntry.text)
def CpuList.ids (list : CpuList) : List Nat := list.entries.flatMap CpuEntry.ids

end Grammar

section Entries

variable {s t : StdString} {maximum n first last : Nat} {c : UInt8}

theorem numeric_iff : numeric s ↔ s ≠ [] ∧ ∀ c ∈ s, isdigit c := by
  simp [numeric]

theorem notMem_of_numeric (h : numeric s) (hc : isdigit c = false) : c ∉ s := fun hmem => by
  simp [(numeric_iff.mp h).2 c hmem] at hc

theorem unsignedAtMost_eq_some (hmaximum : maximum < 2 ^ 32) : unsignedAtMost s maximum = some n ↔
    numeric s ∧ decimal s = n ∧ n ≤ maximum := by
  rw [unsignedAtMost, Option.ite_none_right_eq_some, Option.some_inj]
  constructor
  · rintro ⟨⟨hs, -, hle⟩, rfl⟩
    exact ⟨hs, rfl, hle⟩
  · rintro ⟨hs, rfl, hle⟩
    exact ⟨⟨hs, by omega, hle⟩, rfl⟩

theorem CpuEntry.length_ids (entry : CpuEntry) : entry.ids.length =
    decimal (entry.last.getD entry.first) + 1 - decimal entry.first := List.length_range'

theorem cpuRange_spec : cpuRange s = some (first, last) ↔
    s ≠ [] ∧ (∀ parts ∈ cut 0x2d s, 0x2d ∉ parts.2) ∧
      unsignedAtMost ((cut 0x2d s).getD (s, s)).1 kMaximumCpuId = some first ∧
      unsignedAtMost ((cut 0x2d s).getD (s, s)).2 kMaximumCpuId = some last ∧
      first ≤ last ∧ last - first + 1 ≤ kMaximumCpuCount := by
  rw [cpuRange]
  by_cases hs : s = []
  · simp [hs]
  · cases cut 0x2d s <;> simp [hs, Option.bind_eq_some_iff]

theorem cpuRange_eq_some : cpuRange s = some (first, last) ↔
    ∃ entry : CpuEntry, entry.text = s ∧ decimal entry.first = first ∧
      decimal (entry.last.getD entry.first) = last ∧ entry.ids.length ≤ kMaximumCpuCount := by
  have hbound : kMaximumCpuId < 2 ^ 32 := by decide
  simp only [cpuRange_spec, unsignedAtMost_eq_some hbound, CpuEntry.length_ids]
  constructor
  · rintro ⟨-, hdash, ⟨hfirst, rfl, -⟩, ⟨hlast, rfl, hsmall⟩, hle, hcount⟩
    cases hcut : cut 0x2d s with
    | none =>
      simp only [hcut, Option.getD_none] at hfirst hsmall hcount ⊢
      exact ⟨⟨s, none, hfirst, by simp, le_refl _, hsmall⟩, by simp [CpuEntry.text], rfl, rfl,
        by simpa [Nat.sub_add_comm] using hcount⟩
    | some parts =>
      obtain ⟨front, back⟩ := parts
      obtain ⟨rfl, -⟩ := cut_eq_some_iff.mp hcut
      simp only [hcut, Option.getD_some] at hfirst hlast hsmall hle hcount ⊢
      exact ⟨⟨front, some back, hfirst, by simpa using hlast, hle, hsmall⟩, by simp [CpuEntry.text],
        rfl, rfl, by simp only [Option.getD_some]; omega⟩
  · rintro ⟨⟨front, back, hfirst, hback, hle, hsmall⟩, rfl, rfl, rfl, hcount⟩
    have hdash : 0x2d ∉ front := notMem_of_numeric hfirst (by decide)
    cases back with
    | none =>
      have hcut : cut 0x2d front = none := cut_eq_none_iff.mpr hdash
      simp only [Option.getD_none] at hsmall hcount ⊢
      simp [CpuEntry.text, hcut, (numeric_iff.mp hfirst).1, hfirst, hsmall]
      omega
    | some back =>
      have hlast : numeric back := hback back rfl
      have hcut : cut 0x2d (front ++ 0x2d :: back) = some (front, back) := cut_append hdash
      simp only [Option.getD_some] at hle hsmall hcount
      simp [CpuEntry.text, hcut, hfirst, hlast, hle, hsmall,
        notMem_of_numeric hlast (c := 0x2d) (by decide)]
      omega

end Entries

section Lists

variable {ids range r : List Nat} {id : Nat}

theorem Countable.of_append (h : Countable (ids ++ range)) : Countable ids :=
  ⟨le_trans (by simp) h.few, h.distinct.of_append_left⟩

theorem addCpu_eq_some (h : Countable ids) :
    addCpu ids id = some r ↔ r = ids ++ [id] ∧ Countable (ids ++ [id]) := by
  rw [addCpu, Option.ite_none_left_eq_some, Option.some_inj, eq_comm, and_comm]
  refine and_congr_right fun _ => ?_
  constructor
  · intro hid
    obtain ⟨hnew, hroom⟩ := not_or.mp hid
    refine ⟨by rw [List.length_append]; exact Nat.not_le.mp hroom, ?_⟩
    exact List.nodup_append'.mpr ⟨h.distinct, List.nodup_singleton id, by simpa using hnew⟩
  · rintro ⟨hfew, hdistinct⟩
    rw [List.length_append, List.length_singleton] at hfew
    have hnew : id ∉ ids := by simpa using (List.nodup_append'.mp hdistinct).2.2
    exact not_or.mpr ⟨hnew, Nat.not_le.mpr hfew⟩

theorem foldlM_addCpu (h : Countable ids) : range.foldlM addCpu ids = some r ↔
    r = ids ++ range ∧ Countable (ids ++ range) := by
  induction range generalizing ids with
  | nil => simp [h, eq_comm]
  | cons id range ih =>
    rw [List.foldlM_cons, Option.bind_eq_bind, Option.bind_eq_some_iff, List.append_cons]
    constructor
    · rintro ⟨next, hadd, hrest⟩
      obtain ⟨rfl, hnext⟩ := (addCpu_eq_some h).mp hadd
      exact (ih hnext).mp hrest
    · rintro ⟨rfl, hall⟩
      have hnext : Countable (ids ++ [id]) := hall.of_append
      exact ⟨ids ++ [id], (addCpu_eq_some h).mpr ⟨rfl, hnext⟩, (ih hnext).mpr ⟨rfl, hall⟩⟩

theorem addCpus_eq_some (h : Countable ids) {s : StdString} : addCpus ids s = some r ↔
    ∃ entry : CpuEntry, entry.text = s ∧ r = ids ++ entry.ids ∧ Countable (ids ++ entry.ids) := by
  rw [addCpus, Option.bind_eq_bind, Option.bind_eq_some_iff]
  constructor
  · rintro ⟨⟨first, last⟩, hrange, hfold⟩
    obtain ⟨entry, rfl, rfl, rfl, -⟩ := cpuRange_eq_some.mp hrange
    exact ⟨entry, rfl, (foldlM_addCpu h).mp hfold⟩
  · rintro ⟨entry, rfl, rfl, hall⟩
    have hcount : entry.ids.length ≤ kMaximumCpuCount := le_trans (by simp) hall.few
    exact ⟨_, cpuRange_eq_some.mpr ⟨entry, rfl, rfl, rfl, hcount⟩,
      (foldlM_addCpu h).mpr ⟨rfl, hall⟩⟩

theorem CpuEntry.notMem_text (entry : CpuEntry) : 0x2c ∉ entry.text := by
  have hfirst : 0x2c ∉ entry.first := notMem_of_numeric entry.numericFirst (by decide)
  rw [CpuEntry.text, List.mem_append, not_or]
  cases hlast : entry.last with
  | none => exact ⟨hfirst, by simp⟩
  | some digits =>
    have hdigits := entry.numericLast digits hlast
    exact ⟨hfirst, by simpa using notMem_of_numeric hdigits (by decide)⟩

theorem CpuEntry.ids_ne_nil (entry : CpuEntry) : entry.ids ≠ [] := by
  have hle := entry.ordered
  rw [← List.length_pos_iff, entry.length_ids]
  omega

theorem CpuEntry.text_ne_nil (entry : CpuEntry) : entry.text ≠ [] := by
  simp [CpuEntry.text, (numeric_iff.mp entry.numericFirst).1]

end Lists

section Fold

variable {ε : Type} {text : ε → StdString} {named : ε → List Nat} {s : StdString}
  {add : List Nat → StdString → Option (List Nat)} {ids r : List Nat} {pieces : List StdString}

/-- What one turn of a loop over entries does: it adds what the entry names. -/
def Adds (text : ε → StdString) (named : ε → List Nat)
    (add : List Nat → StdString → Option (List Nat)) : Prop :=
  ∀ ids s r, Countable ids → (add ids s = some r ↔
    ∃ entry, text entry = s ∧ r = ids ++ named entry ∧ Countable (ids ++ named entry))

/-- The loop over the entries adds up what they name. -/
theorem Adds.foldlM (hadds : Adds text named add) (h : Countable ids) :
    pieces.foldlM add ids = some r ↔ ∃ entries : List ε, entries.map text = pieces ∧
      r = ids ++ entries.flatMap named ∧ Countable (ids ++ entries.flatMap named) := by
  induction pieces generalizing ids with
  | nil => simp [h, eq_comm]
  | cons piece pieces ih =>
    rw [List.foldlM_cons, Option.bind_eq_bind, Option.bind_eq_some_iff]
    constructor
    · rintro ⟨next, hadd, hrest⟩
      obtain ⟨entry, rfl, rfl, hnext⟩ := (hadds ids piece next h).mp hadd
      obtain ⟨entries, rfl, rfl, hall⟩ := (ih hnext).mp hrest
      rw [List.append_assoc] at hall ⊢
      exact ⟨entry :: entries, rfl, rfl, hall⟩
    · rintro ⟨entries, hpieces, rfl, hall⟩
      cases entries with
      | nil => cases hpieces
      | cons entry entries =>
        obtain ⟨rfl, rfl⟩ := List.cons.inj hpieces
        rw [List.flatMap_cons, ← List.append_assoc] at hall
        have hnext : Countable (ids ++ named entry) := hall.of_append
        exact ⟨ids ++ named entry, (hadds ids _ _ h).mpr ⟨entry, rfl, rfl, hnext⟩,
          (ih hnext).mpr ⟨entries, rfl, by rw [List.flatMap_cons, List.append_assoc], hall⟩⟩

theorem splitOn_texts (hcomma : ∀ entry, 0x2c ∉ text entry) {entries : List ε}
    (hne : entries ≠ []) :
    ([0x2c].intercalate (entries.map text)).splitOn 0x2c = entries.map text := by
  refine List.splitOn_intercalate 0x2c (fun piece hpiece => ?_) (by simpa using hne)
  obtain ⟨entry, -, rfl⟩ := List.mem_map.mp hpiece
  exact hcomma entry

/-- The entries between the commas, if they are entries. -/
theorem Adds.splitOn (hadds : Adds text named add) (hcomma : ∀ entry, 0x2c ∉ text entry)
    (hnamed : ∀ entry, named entry ≠ []) :
    (((s.splitOn 0x2c).foldlM add []) : Option (List Nat)).filter (· ≠ []) = some ids ↔
      ∃ entries : List ε, entries ≠ [] ∧ Countable (entries.flatMap named) ∧
        s = [0x2c].intercalate (entries.map text) ∧ entries.flatMap named = ids := by
  have hnone : Countable [] := ⟨Nat.zero_le _, List.nodup_nil⟩
  rw [Option.filter_eq_some_iff, hadds.foldlM hnone]
  constructor
  · rintro ⟨⟨entries, hpieces, rfl, hall⟩, -⟩
    have hne : entries ≠ [] := by
      rintro rfl
      exact List.splitOn_ne_nil _ _ hpieces.symm
    exact ⟨entries, hne, hall, by rw [hpieces, List.intercalate_splitOn], rfl⟩
  · rintro ⟨entries, hne, hall, rfl, rfl⟩
    obtain ⟨entry, rest, rfl⟩ := List.exists_cons_of_ne_nil hne
    exact ⟨⟨entry :: rest, (splitOn_texts hcomma hne).symm, rfl, hall⟩, by simp [hnamed entry]⟩

end Fold

section Online

variable {contents : StdString} {ids : List Nat}

theorem adds_addCpus : Adds CpuEntry.text CpuEntry.ids addCpus :=
  fun _ _ _ h => addCpus_eq_some h

theorem CpuList.text_ne_nil (list : CpuList) : list.text ≠ [] := by
  intro hnil
  have hsplit : list.text.splitOn 0x2c = list.entries.map CpuEntry.text :=
    splitOn_texts CpuEntry.notMem_text list.nonempty
  have hempty : [] ∈ list.entries.map CpuEntry.text := by
    rw [← hsplit, hnil]
    exact List.mem_singleton_self []
  obtain ⟨entry, -, htext⟩ := List.mem_map.mp hempty
  exact entry.text_ne_nil htext

theorem onlineCpuIds_eq_some : onlineCpuIds contents = some ids ↔
    ∃ list : CpuList, trim contents = list.text ∧ list.ids = ids := by
  simp only [onlineCpuIds, Option.ite_none_left_eq_some,
    adds_addCpus.splitOn CpuEntry.notMem_text CpuEntry.ids_ne_nil]
  constructor
  · rintro ⟨-, entries, hne, hall, htext, hids⟩
    exact ⟨⟨entries, hne, hall⟩, htext, hids⟩
  · rintro ⟨list, htext, hids⟩
    exact ⟨by rw [htext]; exact list.text_ne_nil,
      list.entries, list.nonempty, list.countable, htext, hids⟩

end Online

/-- Just the lists of the grammar are read, each as its ranges in the order written. -/
theorem online_grammar (contents : StdString) :
    (∀ ids, onlineCpuIds contents = some ids ↔
      ∃ list : CpuList, trim contents = list.text ∧ list.ids = ids) ∧
    (onlineCpuIds contents = none ↔ ¬ ∃ list : CpuList, trim contents = list.text) := by
  refine ⟨fun ids => onlineCpuIds_eq_some, ?_⟩
  rw [Option.eq_none_iff_forall_ne_some]
  constructor
  · rintro hnone ⟨list, htext⟩
    exact hnone list.ids (onlineCpuIds_eq_some.mpr ⟨list, htext, rfl⟩)
  · intro hnone ids hids
    obtain ⟨list, htext, -⟩ := onlineCpuIds_eq_some.mp hids
    exact hnone ⟨list, htext⟩

end RpiDashboard.Daemon
