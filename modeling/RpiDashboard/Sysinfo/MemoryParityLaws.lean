import RpiDashboard.Sysinfo.OnlineParityLaws
import RpiDashboard.Sysinfo.PrivacyLaws

/-! The amount of memory, as the daemon and the collector read it. -/

namespace RpiDashboard.Sysinfo

open Qt Daemon

section Amounts

def memTotal : QByteArray := lit "MemTotal:"

/-- An amount in its line: text at the colon, the number and its unit, with white space between. -/
@[ext] structure Amount where
  label : QByteArray
  before : QByteArray
  number : QByteArray
  between : QByteArray
  after : QByteArray
  labelSolid : ∀ c ∈ label, isspace c = false
  numberSolid : ∀ c ∈ number, isspace c = false
  white : ∀ c ∈ before ++ between ++ after, isspace c
  separated : before = [] → label = []
  numbered : number ≠ []
  unitApart : between ≠ []

def Amount.text (amount : Amount) : QByteArray :=
  memTotal ++ (amount.label ++ (amount.before ++
    (amount.number ++ (amount.between ++ (lit "kB" ++ amount.after)))))

/-- Nothing at the colon, blanks of the kinds that the daemon takes off, and directly after the
number a space or a tab. -/
structure Amount.Plain (amount : Amount) : Prop where
  label : amount.label = []
  kinds : ∀ c ∈ amount.before ++ amount.between ++ amount.after, blank c
  next : ∀ c ∈ amount.between.head?, c = 0x20 ∨ c = 0x09

/-- Kibibytes as bytes. -/
def scaled (kibibytes : UInt64) : Option UInt64 :=
  if kibibytes = 0 ∨ kibibytes > 0xffffffffffffffff / 1024 then none else some (kibibytes * 1024)

def totalLine (contents : QByteArray) : Option QByteArray :=
  (contents.splitOn 0x0a).find? memTotal.isPrefixOf

end Amounts

section Daemon

variable {line contents : QByteArray} {bytes : UInt64}

def daemonLine (line : QByteArray) : Option UInt64 :=
  let value := trim (line.drop 9)
  let digits := value.takeWhile fun c => c ≠ 0x20 && c ≠ 0x09
  if trim (value.drop digits.length) ≠ lit "kB" then none
  else (Daemon.unsignedValue digits).bind scaled

theorem daemon_memoryBytes : Daemon.memoryBytes contents = (totalLine contents).bind daemonLine :=
  rfl

theorem blank_eq_false {c : UInt8} (h : isspace c = false) : blank c = false := by
  by_contra hblank
  have hspace : isspace c := isSpace_of_blank c (by simpa using hblank)
  rw [h] at hspace
  cases hspace

theorem bare_blank_of_forall {s : QByteArray} (h : ∀ c ∈ s, isspace c = false) : Bare blank s :=
  bare_of_forall fun c hc => blank_eq_false (h c hc)

theorem unit_solid : ∀ c ∈ lit "kB", isspace c = false :=
  List.forall_iff_forall_mem.mp (by decide)

/-- What the daemon sees of a plain amount. -/
theorem Amount.Plain.parts {amount : Amount} (h : amount.Plain) :
    trim (amount.text.drop 9) = amount.number ++ (amount.between ++ lit "kB") ∧
      (amount.number ++ (amount.between ++ lit "kB")).takeWhile (fun c => c ≠ 0x20 && c ≠ 0x09) =
        amount.number ∧
      trim (amount.between ++ lit "kB") = lit "kB" := by
  obtain ⟨hfront, hafter⟩ := List.forall_mem_append.mp h.kinds
  obtain ⟨hbefore, hbetween⟩ := List.forall_mem_append.mp hfront
  have hunit : lit "kB" ≠ [] := by decide
  have hsolid := bare_blank_of_forall unit_solid
  refine ⟨?_, ?_, ?_⟩
  · have hdrop : amount.text.drop 9 = amount.before ++
        (amount.number ++ amount.between ++ lit "kB") ++ amount.after := by
      rw [Amount.text, List.drop_left' (by decide), h.label]
      simp
    rw [hdrop, ← List.append_assoc amount.number]
    exact strip_append hbefore hafter
      (bare_between (bare_blank_of_forall amount.numberSolid) amount.numbered hsolid hunit _)
  · obtain ⟨c, rest, hrest⟩ := List.exists_cons_of_ne_nil amount.unitApart
    have hnext : c = 0x20 ∨ c = 0x09 := h.next c (by rw [hrest]; rfl)
    have hnumber : ∀ c ∈ amount.number, c ≠ 0x20 && c ≠ 0x09 := by
      intro d hd
      have hspace := amount.numberSolid d hd
      simp only [Bool.and_eq_true, decide_eq_true_eq]
      constructor <;> rintro rfl <;> exact absurd hspace (by decide)
    rw [List.takeWhile_append_of_pos hnumber, hrest, List.cons_append,
      List.takeWhile_cons_of_neg (by rcases hnext with rfl | rfl <;> decide), List.append_nil]
  · have hstrip : strip blank (amount.between ++ lit "kB" ++ []) = lit "kB" :=
      strip_append hbetween (by simp) hsolid
    rwa [List.append_nil] at hstrip

theorem exists_parts (h : daemonLine line = some bytes) : ∃ before digits between after,
    line.drop 9 = before ++ (digits ++ (between ++ lit "kB")) ++ after ∧
      (∀ c ∈ before ++ between ++ after, blank c) ∧ between ≠ [] ∧
      (∀ c ∈ between.head?, c = 0x20 ∨ c = 0x09) ∧
      (Daemon.unsignedValue digits).bind scaled = some bytes := by
  rw [daemonLine] at h
  generalize hvalue : trim (line.drop 9) = value at h
  have hsplit := List.takeWhile_append_dropWhile (p := fun c => c ≠ 0x20 && c ≠ 0x09) (l := value)
  have hhead : ∀ c ∈ (value.dropWhile fun c => c ≠ 0x20 && c ≠ 0x09).head?, c = 0x20 ∨ c = 0x09 := by
    intro c hc
    have hstop := List.head?_dropWhile_not (fun c => c ≠ 0x20 && c ≠ 0x09) value
    rw [Option.mem_def.mp hc] at hstop
    simpa [or_iff_not_imp_left] using hstop
  generalize value.takeWhile (fun c => c ≠ 0x20 && c ≠ 0x09) = digits at h hsplit
  generalize value.dropWhile (fun c => c ≠ 0x20 && c ≠ 0x09) = spaced at hhead hsplit
  have hspaced : value.drop digits.length = spaced := by rw [← hsplit, List.drop_left]
  rw [hspaced, Option.ite_none_left_eq_some, not_not] at h
  obtain ⟨hunit, hread⟩ := h
  obtain ⟨kibibytes, hnumber, -⟩ := Option.bind_eq_some_iff.mp hread
  obtain ⟨hne, hdigit, -, -⟩ := numeric_of_unsignedValue hnumber
  have hvalue' : strip blank (line.drop 9) = value := hvalue
  have hunit' : strip blank spaced = lit "kB" := hunit
  obtain ⟨before, after, houter, hbefore, hafter⟩ := exists_strip blank (line.drop 9)
  obtain ⟨between, last, hinner, hbetween, hlast⟩ := exists_strip blank spaced
  rw [hvalue'] at houter
  rw [hunit'] at hinner
  -- The unit is the last of what is left.
  obtain rfl : last = [] := by
    have hbare : Bare blank value := hvalue' ▸ bare_strip blank (line.drop 9)
    rw [← hsplit, hinner, ← List.append_assoc] at hbare
    exact hbare.back_nil hlast
  rw [List.append_nil] at hinner
  rw [hinner] at hhead hsplit
  refine ⟨before, digits, between, after, by rw [hsplit, houter], ?_, ?_, ?_, hread⟩
  · simp only [List.forall_mem_append]
    exact ⟨⟨hbefore, hbetween⟩, hafter⟩
  · rintro rfl
    exact absurd (hhead 0x6b (by decide)) (by decide)
  · intro c hc
    refine hhead c ?_
    rwa [List.head?_append_of_ne_nil _ (List.ne_nil_of_mem (List.mem_of_mem_head? hc))]

theorem daemonLine_eq_some (hline : memTotal <+: line) : daemonLine line = some bytes ↔
    ∃ amount : Amount, amount.text = line ∧ amount.Plain ∧
      (Daemon.unsignedValue amount.number).bind scaled = some bytes := by
  constructor
  · intro h
    obtain ⟨before, digits, between, after, hdrop, hblank, hne, hnext, hread⟩ := exists_parts h
    obtain ⟨kibibytes, hnumber, -⟩ := Option.bind_eq_some_iff.mp hread
    obtain ⟨hdigits, hdigit, -, -⟩ := numeric_of_unsignedValue hnumber
    have hnine : line = memTotal ++ line.drop 9 := (List.prefix_iff_eq_append.mp hline).symm
    refine ⟨⟨[], before, digits, between, after, by simp,
      fun c hc => isspace_of_isdigit (hdigit c hc), fun c hc => isSpace_of_blank c (hblank c hc),
      fun _ => rfl, hdigits, hne⟩, ?_, ⟨rfl, hblank, hnext⟩, hread⟩
    rw [hnine, hdrop]
    simp [Amount.text]
  · rintro ⟨amount, rfl, hplain, hvalue⟩
    obtain ⟨htrim, htake, hunit⟩ := hplain.parts
    simp only [daemonLine, htrim, htake, List.drop_left, hunit, ne_eq, not_true_eq_false, if_false,
      hvalue]

end Daemon

section Collector

variable {qt : QtUnicode} {line contents : QByteArray} {bytes : UInt64}

def collectorLine (qt : QtUnicode) (line : QByteArray) : Option UInt64 :=
  match QByteArray.split (QByteArray.simplified line) 0x20 with
  | [_, digits, unit] =>
    if unit ≠ lit "kB" then none else (qt.toULongLong digits).bind scaled
  | _ => none

theorem collector_memoryBytes :
    memoryBytes qt contents = (totalLine contents).bind (collectorLine qt) := by
  have hunit : bytesOf "kB" = lit "kB" := by decide
  have htotal : bytesOf "MemTotal:" = memTotal := by decide
  rw [memoryBytes, hunit, htotal]
  rfl

theorem words_space {white s : QByteArray} (hwhite : ∀ c ∈ white, isspace c) :
    words (white ++ s) = words s := by
  induction white with
  | nil => rfl
  | cons c white ih =>
    obtain ⟨hc, hrest⟩ := List.forall_mem_cons.mp hwhite
    rw [List.cons_append, words_cons _ hc, ih hrest]

theorem words_solid {solid white s : QByteArray} (hsolid : ∀ c ∈ solid, isspace c = false)
    (hne : solid ≠ []) (hwhite : ∀ c ∈ white, isspace c) (hwne : white ≠ []) :
    words (solid ++ (white ++ s)) = solid :: words s := by
  obtain ⟨c, rest, rfl⟩ := List.exists_cons_of_ne_nil hwne
  obtain ⟨hc, hrest⟩ := List.forall_mem_cons.mp hwhite
  rw [List.cons_append, words_append_cons _ _ hc, words_of_forall hsolid hne, words_space hrest]
  rfl

theorem words_unit {after : QByteArray} (hafter : ∀ c ∈ after, isspace c) :
    words (lit "kB" ++ after) = [lit "kB"] := by
  cases after with
  | nil => decide
  | cons c after =>
    rw [← List.append_nil (c :: after), words_solid unit_solid (by decide) hafter (by simp),
      words_nil]

theorem memTotal_solid : ∀ c ∈ memTotal, isspace c = false :=
  List.forall_iff_forall_mem.mp (by decide)

theorem Amount.spaces (amount : Amount) : (∀ c ∈ amount.before, isspace c) ∧
    (∀ c ∈ amount.between, isspace c) ∧ ∀ c ∈ amount.after, isspace c := by
  obtain ⟨hfront, hafter⟩ := List.forall_mem_append.mp amount.white
  obtain ⟨hbefore, hbetween⟩ := List.forall_mem_append.mp hfront
  exact ⟨hbefore, hbetween, hafter⟩

theorem Amount.words_text (amount : Amount) : words amount.text =
    if amount.before = [] then [memTotal ++ amount.number, lit "kB"]
    else [memTotal ++ amount.label, amount.number, lit "kB"] := by
  obtain ⟨hbefore, hbetween, hafter⟩ := amount.spaces
  have hsolid {s : QByteArray} (hs : ∀ c ∈ s, isspace c = false) :
      (∀ c ∈ memTotal ++ s, isspace c = false) ∧ memTotal ++ s ≠ [] :=
    ⟨List.forall_mem_append.mpr ⟨memTotal_solid, hs⟩, List.append_ne_nil_of_left_ne_nil (by decide) s⟩
  split
  case isTrue hnone =>
    obtain ⟨hword, hne⟩ := hsolid amount.numberSolid
    rw [Amount.text, hnone, amount.separated hnone, List.nil_append, List.nil_append,
      ← List.append_assoc, words_solid hword hne hbetween amount.unitApart, words_unit hafter]
  case isFalse hsome =>
    obtain ⟨hword, hne⟩ := hsolid amount.labelSolid
    rw [Amount.text, ← List.append_assoc, words_solid hword hne hbefore hsome,
      words_solid amount.numberSolid amount.numbered hbetween amount.unitApart, words_unit hafter]

theorem collectorLine_words : collectorLine qt line = some bytes ↔
    ∃ word digits, words line = [word, digits, lit "kB"] ∧
      (qt.toULongLong digits).bind scaled = some bytes := by
  have hsplit (word digits unit : QByteArray) :
      QByteArray.split (QByteArray.simplified line) 0x20 = [word, digits, unit] ↔
        words line = [word, digits, unit] := by
    by_cases hne : words line = []
    · rw [Sysmetrics.split_blank hne, hne]
      simp
    · rw [Sysmetrics.split_simplified hne]
  rw [collectorLine]
  constructor
  · intro h
    split at h
    case h_1 word digits unit heq =>
      rw [Option.ite_none_left_eq_some, not_not] at h
      obtain ⟨rfl, hread⟩ := h
      exact ⟨word, digits, (hsplit _ _ _).mp heq, hread⟩
    case h_2 => cases h
  · rintro ⟨word, digits, hwords, hread⟩
    rw [(hsplit _ _ _).mpr hwords]
    simpa using hread

/-- The first word with the white space in front of it. -/
theorem exists_spaced {s f : QByteArray} {ws : List QByteArray} (h : words s = f :: ws) :
    ∃ white rest, s = white ++ (f ++ rest) ∧ (∀ c ∈ white, isspace c) ∧ words rest = ws ∧
      (∀ c ∈ rest.head?, isspace c) ∧ f ≠ [] ∧ (∀ c ∈ f, isspace c = false) ∧
      ((∀ c ∈ s.head?, isspace c) → white ≠ []) := by
  obtain ⟨rest, hdrop, hrest, hhead, hne, hsolid⟩ := exists_word h
  have hsplit := List.takeWhile_append_dropWhile (p := isspace) (l := s)
  rw [hdrop] at hsplit
  refine ⟨s.takeWhile isspace, rest, hsplit.symm, fun c hc => List.mem_takeWhile_imp hc, hrest,
    hhead, hne, hsolid, fun hspace hnil => ?_⟩
  obtain ⟨c, f, rfl⟩ := List.exists_cons_of_ne_nil hne
  rw [hnil, List.nil_append] at hsplit
  have hc : isspace c := hspace c (by rw [← hsplit]; rfl)
  simp [hsolid c List.mem_cons_self] at hc

/-- A first word that starts with the key is the key and what stands at it. -/
theorem exists_label {word rest : QByteArray} (hline : memTotal <+: word ++ rest)
    (hrest : ∀ c ∈ rest.head?, isspace c) : ∃ label, word = memTotal ++ label := by
  obtain ⟨tail, htail⟩ := hline
  rcases List.append_eq_append_iff.mp htail with ⟨label, hword, -⟩ | ⟨beyond, hkey, hover⟩
  · exact ⟨label, hword⟩
  · cases beyond with
    | nil => exact ⟨[], by rw [hkey, List.append_nil, List.append_nil]⟩
    | cons c beyond =>
      have hspace : isspace c := hrest c (by rw [hover]; rfl)
      have hsolid : isspace c = false := memTotal_solid c (by rw [hkey]; simp)
      rw [hspace] at hsolid
      cases hsolid

theorem collectorLine_eq_some (hline : memTotal <+: line) : collectorLine qt line = some bytes ↔
    ∃ amount : Amount, amount.text = line ∧ amount.before ≠ [] ∧
      (qt.toULongLong amount.number).bind scaled = some bytes := by
  rw [collectorLine_words]
  constructor
  · rintro ⟨word, digits, hwords, hread⟩
    obtain ⟨front, rest, rfl, hfront, hrest, hhead, -, hword, -⟩ := exists_spaced hwords
    obtain ⟨before, rest₂, rfl, hbefore, hrest₂, hhead₂, hdigits, hsolid, hapart⟩ :=
      exists_spaced hrest
    obtain ⟨between, after, rfl, hbetween, hafter, hlast, -, -, hunit⟩ := exists_spaced hrest₂
    obtain rfl : front = [] := by
      cases front with
      | nil => rfl
      | cons c front =>
        obtain ⟨tail, htail⟩ := hline
        obtain rfl : 0x4d = c := (List.cons.inj htail).1
        exact absurd (hfront 0x4d List.mem_cons_self) (by decide)
    rw [List.nil_append] at hline ⊢
    obtain ⟨label, rfl⟩ := exists_label hline hhead
    have hnone : ∀ c ∈ after, isspace c := List.dropWhile_eq_nil_iff.mp (dropWhile_of_words_nil hafter)
    refine ⟨⟨label, before, digits, between, after, fun c hc => hword c (by simp [hc]), hsolid, ?_,
      fun h => absurd h (hapart hhead), hdigits, hunit hhead₂⟩, ?_, hapart hhead, hread⟩
    · simp only [List.forall_mem_append]
      exact ⟨⟨hbefore, hbetween⟩, hnone⟩
    · simp [Amount.text]
  · rintro ⟨amount, rfl, hsome, hread⟩
    exact ⟨_, _, by rw [amount.words_text, if_neg hsome], hread⟩

end Collector

section Agreement

variable {qt : QtUnicode} {line contents : QByteArray} {a b : Amount}

theorem solid_cancel {s s' rest rest' : QByteArray} (hs : ∀ c ∈ s, isspace c = false)
    (hs' : ∀ c ∈ s', isspace c = false) (hr : ∀ c ∈ rest.head?, isspace c)
    (hr' : ∀ c ∈ rest'.head?, isspace c) (h : s ++ rest = s' ++ rest') : s = s' ∧ rest = rest' :=
  run_cancel (p := fun c => !isspace c) (fun c hc => by simp [hs c hc])
    (fun c hc => by simp [hs' c hc]) (fun c hc => by simp [hr c hc])
    (fun c hc => by simp [hr' c hc]) h

theorem head_append {p : UInt8 → Prop} {s : QByteArray} (hs : ∀ c ∈ s, p c) (hne : s ≠ [])
    (rest : QByteArray) : ∀ c ∈ (s ++ rest).head?, p c := by
  rw [List.head?_append_of_ne_nil _ hne]
  exact fun c hc => hs c (List.mem_of_mem_head? hc)

theorem number_cancel (h : a.number ++ (a.between ++ (lit "kB" ++ a.after)) =
    b.number ++ (b.between ++ (lit "kB" ++ b.after))) :
    a.number = b.number ∧ a.between = b.between ∧ a.after = b.after := by
  obtain ⟨-, ha, -⟩ := a.spaces
  obtain ⟨-, hb, -⟩ := b.spaces
  obtain ⟨hnumber, h⟩ := solid_cancel a.numberSolid b.numberSolid (head_append ha a.unitApart _)
    (head_append hb b.unitApart _) h
  have hunit (after : QByteArray) : ∀ c ∈ (lit "kB" ++ after).head?, isspace c = false :=
    head_append unit_solid (by decide) after
  obtain ⟨hbetween, h⟩ := run_cancel ha hb (hunit _) (hunit _) h
  exact ⟨hnumber, hbetween, List.append_cancel_left h⟩

/-- A line is divided in one way. -/
theorem Amount.text_injective (h : a.text = b.text) : a = b := by
  have hwords := a.words_text
  rw [h, b.words_text] at hwords
  have hcancel := List.append_cancel_left h
  obtain ⟨ha, -, -⟩ := a.spaces
  obtain ⟨hb, -, -⟩ := b.spaces
  by_cases hbefore : a.before = []
  · have hbefore' : b.before = [] := by
      by_contra hne
      simp [hbefore, hne] at hwords
    rw [hbefore, hbefore', a.separated hbefore, b.separated hbefore'] at hcancel
    obtain ⟨hnumber, hbetween, hafter⟩ := number_cancel hcancel
    exact Amount.ext ((a.separated hbefore).trans (b.separated hbefore').symm)
      (hbefore.trans hbefore'.symm) hnumber hbetween hafter
  · have hbefore' : b.before ≠ [] := by
      intro hnil
      simp [hbefore, hnil] at hwords
    obtain ⟨hlabel, h⟩ := solid_cancel a.labelSolid b.labelSolid (head_append ha hbefore _)
      (head_append hb hbefore' _) hcancel
    obtain ⟨hspace, h⟩ := run_cancel ha hb (head_append a.numberSolid a.numbered _)
      (head_append b.numberSolid b.numbered _) h
    obtain ⟨hnumber, hbetween, hafter⟩ := number_cancel h
    exact Amount.ext hlabel hspace hnumber hbetween hafter

/-- The number is read, as an amount that fits. -/
def Amount.Valued (qt : QtUnicode) (amount : Amount) : Prop :=
  ∃ kibibytes ∈ qt.toULongLong amount.number,
    kibibytes ≠ 0 ∧ kibibytes ≤ 0xffffffffffffffff / 1024

/-- An amount is in its line apart from the key just if it is in decimal digits, with nothing at
the colon and blanks of the kinds that the daemon knows. -/
def MemoryRegular (qt : QtUnicode) (contents : QByteArray) : Prop :=
  ∀ amount : Amount, totalLine contents = some amount.text → amount.Valued qt →
    (amount.before ≠ [] ↔ numeric amount.number ∧ amount.Plain)

theorem valued_iff (amount : Amount) :
    amount.Valued qt ↔ ((qt.toULongLong amount.number).bind scaled).isSome := by
  rw [Amount.Valued]
  cases qt.toULongLong amount.number with
  | none => simp
  | some kibibytes => simp [scaled, not_or]

theorem lines_agree_iff (hqt : ReadsDigits qt) (hline : memTotal <+: line) :
    collectorLine qt line = daemonLine line ↔ ∀ amount : Amount, amount.text = line →
      amount.Valued qt → (amount.before ≠ [] ↔ numeric amount.number ∧ amount.Plain) := by
  constructor
  · rintro hagree amount rfl hvalued
    obtain ⟨bytes, hread⟩ := Option.isSome_iff_exists.mp (valued_iff amount |>.mp hvalued)
    constructor
    · intro happart
      have hcollector := (collectorLine_eq_some hline).mpr ⟨amount, rfl, happart, hread⟩
      obtain ⟨plain, htext, hplain, hvalue⟩ :=
        (daemonLine_eq_some hline).mp (hagree.symm.trans hcollector)
      obtain rfl := Amount.text_injective htext
      obtain ⟨kibibytes, hnumber, -⟩ := Option.bind_eq_some_iff.mp hvalue
      obtain ⟨hne, hdigits, -, -⟩ := numeric_of_unsignedValue hnumber
      exact ⟨numeric_iff.mpr ⟨hne, hdigits⟩, hplain⟩
    · rintro ⟨hnumeric, hplain⟩
      rw [hqt _ hnumeric] at hread
      have hdaemon := (daemonLine_eq_some hline).mpr ⟨amount, rfl, hplain, hread⟩
      obtain ⟨other, htext, hother, -⟩ := (collectorLine_eq_some hline).mp (hagree.trans hdaemon)
      rwa [Amount.text_injective htext] at hother
  · intro hregular
    refine Option.ext fun bytes => ?_
    rw [collectorLine_eq_some hline, daemonLine_eq_some hline]
    refine exists_congr fun amount => and_congr_right fun htext => ?_
    constructor
    · rintro ⟨happart, hread⟩
      have hvalued : amount.Valued qt := (valued_iff amount).mpr (by rw [hread]; rfl)
      obtain ⟨hnumeric, hplain⟩ := (hregular amount htext hvalued).mp happart
      exact ⟨hplain, by rw [← hqt _ hnumeric, hread]⟩
    · rintro ⟨hplain, hread⟩
      obtain ⟨kibibytes, hnumber, -⟩ := Option.bind_eq_some_iff.mp hread
      obtain ⟨hne, hdigits, -, -⟩ := numeric_of_unsignedValue hnumber
      have hnumeric : numeric amount.number := numeric_iff.mpr ⟨hne, hdigits⟩
      rw [← hqt _ hnumeric] at hread
      have hvalued : amount.Valued qt := (valued_iff amount).mpr (by rw [hread]; rfl)
      exact ⟨(hregular amount htext hvalued).mpr ⟨hnumeric, hplain⟩, hread⟩

theorem memory_agree_iff (hqt : ReadsDigits qt) :
    memoryBytes qt contents = Daemon.memoryBytes contents ↔ MemoryRegular qt contents := by
  rw [collector_memoryBytes, daemon_memoryBytes, MemoryRegular]
  cases htotal : totalLine contents with
  | none => simp
  | some line =>
    have hline : memTotal <+: line := List.isPrefixOf_iff_prefix.mp (List.find?_some htotal)
    rw [Option.bind_some, Option.bind_some, lines_agree_iff hqt hline]
    simp only [Option.some_inj, eq_comm]

end Agreement

/-- The two parsers of each kind agree on a text just if it is regular. -/
theorem parsers_agree_iff {qt : QtUnicode} (hqt : ReadsDigits qt) (contents : QByteArray) :
    (onlineCpuIds qt contents = Daemon.onlineCpuIds contents ↔ OnlineRegular contents) ∧
      (memoryBytes qt contents = Daemon.memoryBytes contents ↔ MemoryRegular qt contents) :=
  ⟨online_agree_iff hqt, memory_agree_iff hqt⟩

/-- Reads decimal digits and nothing else. -/
def digitsUnicode : QtUnicode := { sampleUnicode with toULongLong := Daemon.unsignedValue }

theorem parsers_agree_iff_sample :
    (onlineCpuIds digitsUnicode (lit "0-3,5\n") = Daemon.onlineCpuIds (lit "0-3,5\n") ↔
        OnlineRegular (lit "0-3,5\n")) ∧
      (memoryBytes digitsUnicode (lit "0-3,5\n") = Daemon.memoryBytes (lit "0-3,5\n") ↔
        MemoryRegular digitsUnicode (lit "0-3,5\n")) :=
  parsers_agree_iff (fun _ _ => rfl) (lit "0-3,5\n")

/-- A space at the dash, and none at the colon. -/
theorem parsers_drift :
    (onlineCpuIds digitsUnicode (lit "0 -3") = some [0, 1, 2, 3] ∧
        Daemon.onlineCpuIds (lit "0 -3") = none) ∧
      memoryBytes digitsUnicode (lit "MemTotal:8 kB") = none ∧
        Daemon.memoryBytes (lit "MemTotal:8 kB") = some 8192 := by
  decide +kernel

end RpiDashboard.Sysinfo
