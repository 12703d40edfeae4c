import Mathlib.Data.List.TakeWhile
import RpiDashboard.Daemon.Text
import RpiDashboard.Data.Utf8

/-! Laws of the texts of the daemon: what it takes for UTF-8, where it looks at the form of each
sequence only, and how it takes a text apart. -/

namespace RpiDashboard.Daemon

open Utf8

section Loop

theorem masks_spec (c : UInt8) : ((c &&& 0xe0 = 0xc0) ↔ within 0xc0 0xdf c) ∧
    ((c &&& 0xf0 = 0xe0) ↔ within 0xe0 0xef c) ∧ ((c &&& 0xf8 = 0xf0) ↔ within 0xf0 0xf7 c) ∧
    ((c &&& 0xc0 = 0x80) ↔ tail c) ∧ ((c < 0x80) ↔ c ≤ 0x7f) := by
  revert c
  exact forall_byte (by decide +kernel)

variable {c : UInt8} {s t : StdString} {left : Nat}

theorem utf8Loop_lead : utf8Loop 0 (c :: s) = (announced c).any fun left => utf8Loop left s := by
  obtain ⟨htwo, hthree, hfour, -, hone⟩ := masks_spec c
  rw [utf8Loop, announced]
  simp only [htwo, hthree, hfour, hone]
  split_ifs <;> rfl

theorem utf8Loop_tail : utf8Loop (left + 1) (c :: s) = (tail c && utf8Loop left s) := by
  rw [utf8Loop]
  simp only [(masks_spec c).2.2.2.1]
  split_ifs with h <;> simp [h]

/-- The loop ends between two sequences just if it first meets the bytes that are left. -/
theorem utf8Loop_iff : utf8Loop left s ↔
    ∃ t rest, t ++ rest = s ∧ t.length = left ∧ (∀ b ∈ t, tail b) ∧ utf8Loop 0 rest := by
  induction left generalizing s with
  | zero =>
    constructor
    · exact fun h => ⟨[], s, rfl, rfl, by simp, h⟩
    · rintro ⟨t, rest, rfl, hlength, -, h⟩
      rwa [List.length_eq_zero_iff.mp hlength]
  | succ left ih =>
    constructor
    · intro h
      cases s with
      | nil => simp [utf8Loop] at h
      | cons c s =>
        rw [utf8Loop_tail, Bool.and_eq_true] at h
        obtain ⟨t, rest, rfl, rfl, ht, hrest⟩ := ih.mp h.2
        exact ⟨c :: t, rest, rfl, rfl, List.forall_mem_cons.mpr ⟨h.1, ht⟩, hrest⟩
    · rintro ⟨t, rest, rfl, hlength, ht, hrest⟩
      cases t with
      | nil => cases hlength
      | cons c t =>
        obtain ⟨hc, ht⟩ := List.forall_mem_cons.mp ht
        rw [List.cons_append, utf8Loop_tail, Bool.and_eq_true]
        exact ⟨hc, ih.mpr ⟨t, rest, rfl, Nat.succ.inj hlength, ht, hrest⟩⟩

theorem utf8Loop_sequence (hs : sequence s) : utf8Loop 0 (s ++ t) = utf8Loop 0 t := by
  cases s with
  | nil => cases hs
  | cons a s =>
    obtain ⟨ha, htail⟩ := sequence_cons.mp hs
    rw [List.cons_append, utf8Loop_lead, ha, Option.any_some]
    refine Bool.eq_iff_iff.mpr ⟨fun h => ?_, fun h => utf8Loop_iff.mpr ⟨s, t, rfl, rfl, htail, h⟩⟩
    obtain ⟨u, rest, happend, hlength, -, hrest⟩ := utf8Loop_iff.mp h
    obtain ⟨rfl, rfl⟩ := List.append_inj happend hlength
    exact hrest

theorem utf8_flatten {cs : List (List UInt8)} (h : ∀ c ∈ cs, sequence c) : utf8 cs.flatten := by
  induction cs with
  | nil => rfl
  | cons c cs ih =>
    obtain ⟨hc, hcs⟩ := List.forall_mem_cons.mp h
    rw [List.flatten_cons, utf8, utf8Loop_sequence hc]
    exact ih hcs

/-- What passes is divided into sequences. -/
theorem exists_sequences (h : utf8 s) : ∃ cs : List (List UInt8), cs.flatten = s ∧
    ∀ c ∈ cs, sequence c := by
  induction hn : s.length using Nat.strong_induction_on generalizing s with
  | _ n ih =>
    cases s with
    | nil => exact ⟨[], rfl, by simp⟩
    | cons a s =>
      rw [utf8, utf8Loop_lead, Option.any_eq_true] at h
      obtain ⟨left, ha, hloop⟩ := h
      obtain ⟨t, rest, rfl, rfl, ht, hrest⟩ := utf8Loop_iff.mp hloop
      obtain ⟨cs, rfl, hcs⟩ := ih rest.length (by simp at hn; omega) hrest rfl
      exact ⟨(a :: t) :: cs, rfl, List.forall_mem_cons.mpr ⟨sequence_cons.mpr ⟨ha, ht⟩, hcs⟩⟩

theorem utf8_of_wellFormed (h : WellFormed s) : utf8 s := by
  obtain ⟨cs, rfl, hcs⟩ := h
  exact utf8_flatten fun c hc => (character_iff.mp (hcs c hc)).1

end Loop

/-- The check is exact on a text just if no sequence that it is divided into is longer than it
must be, a surrogate or above U+10FFFF. -/
theorem utf8_exact_iff (s : StdString) : (utf8 s = true ↔ WellFormed s) ↔
    ∀ cs : List (List UInt8), cs.flatten = s → (∀ c ∈ cs, sequence c) → ∀ c ∈ cs, Proper c := by
  constructor
  case mp =>
    rintro hexact cs rfl hcs
    exact (wellFormed_flatten hcs).mp (hexact.mp (utf8_flatten hcs))
  case mpr =>
    intro hproper
    constructor
    · intro h
      obtain ⟨cs, rfl, hcs⟩ := exists_sequences h
      exact (wellFormed_flatten hcs).mpr (hproper cs rfl hcs)
    · exact utf8_of_wellFormed

/-- A NUL in two bytes. -/
theorem overlong_accepted : ¬ (utf8 [0xc0, 0x80] = true ↔ WellFormed [0xc0, 0x80]) := by
  have hsequences : ∀ c ∈ [[0xc0, 0x80]], sequence c := by decide
  intro hexact
  have hproper := (wellFormed_flatten hsequences).mp (hexact.mp (by decide))
  exact absurd (hproper _ List.mem_cons_self).1 (by decide)

section Words

variable {c : UInt8} {s t f : StdString} {ws : List StdString}

@[simp] theorem words_nil : words [] = [] := by decide

theorem words_append_cons (s t : StdString) (hc : isspace c) :
    words (s ++ c :: t) = words s ++ words t := by
  rw [words, List.splitOnP_append_cons s t hc, List.filter_append]
  rfl

theorem words_cons (s : StdString) (hc : isspace c) : words (c :: s) = words s := by
  simpa using words_append_cons [] s hc

theorem words_of_forall (hs : ∀ c ∈ s, isspace c = false) (hne : s ≠ []) : words s = [s] := by
  rw [words, List.splitOnP_eq_singleton hs]
  simp [hne]

theorem words_dropWhile (s : StdString) : words (s.dropWhile isspace) = words s := by
  induction s with
  | nil => rfl
  | cons c s ih =>
    rw [List.dropWhile_cons]
    split
    case isTrue hc => rw [ih, words_cons s hc]
    case isFalse => rfl

/-- The words of a text are those of its lines. -/
theorem words_lines (lines : List StdString) :
    words ([0x0a].intercalate lines) = lines.flatMap words := by
  induction lines with
  | nil => simp
  | cons line lines ih =>
    cases lines with
    | nil => simp
    | cons next lines =>
      rw [List.intercalate_cons_cons, List.append_assoc, List.singleton_append,
        words_append_cons _ _ (by decide), ih]
      rfl

theorem dropWhile_of_words_nil (h : words s = []) : s.dropWhile isspace = [] := by
  rw [← words_dropWhile] at h
  have hhead := List.head?_dropWhile_not isspace s
  cases hs : s.dropWhile isspace with
  | nil => rfl
  | cons c t =>
    obtain ⟨piece, pieces, hpieces⟩ := List.exists_cons_of_ne_nil (List.splitOnP_ne_nil isspace t)
    simp_all [words, List.splitOnP_cons_eq_if_modifyHead]

/-- The first word, and where it ends. -/
theorem exists_word (h : words s = f :: ws) : ∃ rest, s.dropWhile isspace = f ++ rest ∧
    words rest = ws ∧ (∀ c ∈ rest.head?, isspace c) ∧ f ≠ [] ∧ ∀ c ∈ f, isspace c = false := by
  rw [← words_dropWhile] at h
  have hhead := List.head?_dropWhile_not isspace s
  generalize s.dropWhile isspace = t at h hhead ⊢
  have hword : ∀ c ∈ t.takeWhile (!isspace ·), isspace c = false := fun c hc => by
    simpa using List.mem_takeWhile_imp hc
  have hsplit : t.takeWhile (!isspace ·) ++ t.dropWhile (!isspace ·) = t := List.takeWhile_append_dropWhile
  have hne : t.takeWhile (!isspace ·) ≠ [] := by
    cases t with
    | nil => simp at h
    | cons c t => simp_all
  have hrest := List.head?_dropWhile_not (!isspace ·) t
  generalize t.takeWhile (!isspace ·) = w at hsplit hword hne
  generalize t.dropWhile (!isspace ·) = rest at hsplit hrest
  subst hsplit
  cases rest with
  | nil =>
    rw [List.append_nil, words_of_forall hword hne] at h
    cases h
    exact ⟨[], rfl, rfl, by simp, hne, hword⟩
  | cons c rest =>
    have hc : isspace c := by simpa using hrest
    rw [words_append_cons _ _ hc, words_of_forall hword hne] at h
    cases h
    exact ⟨c :: rest, rfl, words_cons rest hc, by simpa using hc, hne, hword⟩

theorem forall_mem_words (s : StdString) : ∀ word ∈ words s, ∀ c ∈ word, isspace c = false := by
  generalize hwords : words s = ws
  induction ws generalizing s with
  | nil => simp
  | cons f ws ih =>
    obtain ⟨rest, -, hrest, -, -, hword⟩ := exists_word hwords
    exact List.forall_mem_cons.mpr ⟨hword, ih rest hrest⟩

end Words

section Extract

variable {s f : StdString} {fs ws : List StdString} {v : UInt64} {vs : List UInt64} {fuel : Nat}

theorem numeric_of_unsignedValue (h : unsignedValue f = some v) :
    f ≠ [] ∧ (∀ c ∈ f, isdigit c) ∧ decimal f < 2 ^ 64 ∧ v = UInt64.ofNat (decimal f) := by
  unfold unsignedValue at h
  split at h
  case isTrue hf =>
    obtain ⟨hnumeric, hlt⟩ := hf
    cases h
    rw [numeric, Bool.and_eq_true, List.all_eq_true] at hnumeric
    exact ⟨by simpa using hnumeric.1, hnumeric.2, hlt, rfl⟩
  case isFalse => cases h

theorem isspace_of_isdigit {c : UInt8} (h : isdigit c) : isspace c = false := by
  simp only [isdigit, isspace, Bool.and_eq_true, decide_eq_true_eq, UInt8.le_iff_toNat_le,
    ← UInt8.toNat_inj, Bool.or_eq_false_iff, decide_eq_false_iff_not] at h ⊢
  simp at h ⊢
  omega

theorem signOf_of_head (h : ∀ c ∈ s.head?, c ≠ 0x2d ∧ c ≠ 0x2b) : signOf s = (false, s) := by
  cases s with
  | nil => rfl
  | cons c s =>
    obtain ⟨hminus, hplus⟩ := h c rfl
    unfold signOf
    split
    case h_1 heq => exact absurd (List.cons.inj heq).1 hminus
    case h_2 heq => exact absurd (List.cons.inj heq).1 hplus
    case h_3 => rfl

/-- A number in front is extracted up to the white space after it. -/
theorem extractUnsigned_word (h : words s = f :: ws) (hv : unsignedValue f = some v) :
    ∃ rest, extractUnsigned s = some (v, rest) ∧ words rest = ws ∧ rest.length < s.length := by
  obtain ⟨rest, hdrop, hrest, hhead, hne, -⟩ := exists_word h
  obtain ⟨-, hdigits, hlt, rfl⟩ := numeric_of_unsignedValue hv
  have hstop : rest.takeWhile isdigit = [] ∧ rest.dropWhile isdigit = rest := by
    cases rest with
    | nil => simp
    | cons c rest =>
      have hc : isspace c := by simpa using hhead
      have hdigit : ¬ isdigit c := fun hd => by simp [isspace_of_isdigit hd] at hc
      exact ⟨List.takeWhile_cons_of_neg hdigit, List.dropWhile_cons_of_neg hdigit⟩
  have hsign : signOf (f ++ rest) = (false, f ++ rest) := by
    refine signOf_of_head fun c hc => ?_
    rw [List.head?_append_of_ne_nil _ hne] at hc
    have hdigit : isdigit c := hdigits c (List.mem_of_mem_head? hc)
    constructor <;> rintro rfl <;> exact absurd hdigit (by decide)
  have hlength : rest.length < s.length := by
    have hle := (List.dropWhile_suffix (l := s) isspace).length_le
    have hpos := List.length_pos_iff.mpr hne
    rw [hdrop, List.length_append] at hle
    omega
  refine ⟨rest, ?_, hrest, hlength⟩
  rw [extractUnsigned, hdrop, hsign]
  simp only [List.takeWhile_append_of_pos hdigits, List.dropWhile_append_of_pos hdigits, hstop.1,
    hstop.2, List.append_nil]
  rw [if_neg (not_or.mpr ⟨hne, Nat.not_le.mpr hlt⟩)]
  rfl

/-- A word that starts neither with a digit nor with a sign ends the extraction. -/
theorem extractUnsigned_stop (h : ∀ w ∈ (words s).head?, ∀ c ∈ w.head?,
    ¬ isdigit c ∧ c ≠ 0x2d ∧ c ≠ 0x2b) : extractUnsigned s = none := by
  have hhead : ∀ c ∈ (s.dropWhile isspace).head?, ¬ isdigit c ∧ c ≠ 0x2d ∧ c ≠ 0x2b := by
    cases hwords : words s with
    | nil => simp [dropWhile_of_words_nil hwords]
    | cons f ws =>
      obtain ⟨rest, hdrop, -, -, hne, -⟩ := exists_word hwords
      rw [hdrop, List.head?_append_of_ne_nil _ hne]
      exact h f (by simp [hwords])
  have hdigits : (s.dropWhile isspace).takeWhile isdigit = [] := by
    cases hs : s.dropWhile isspace with
    | nil => rfl
    | cons c t => exact List.takeWhile_cons_of_neg (hhead c (by simp [hs])).1
  rw [extractUnsigned, signOf_of_head fun c hc => (hhead c hc).2]
  simp [hdigits]

theorem extractLoop_words (hwords : words s = fs ++ ws) (hvs : fs.map unsignedValue = vs.map some)
    (hstop : ∀ w ∈ ws.head?, ∀ c ∈ w.head?, ¬ isdigit c ∧ c ≠ 0x2d ∧ c ≠ 0x2b)
    (hfuel : s.length ≤ fuel) : extractLoop fuel s = vs := by
  induction fs generalizing s vs fuel with
  | nil =>
    obtain rfl : vs = [] := by simpa using hvs.symm
    cases fuel with
    | zero => rfl
    | succ fuel =>
      rw [extractLoop, extractUnsigned_stop]
      rwa [hwords]
  | cons f fs ih =>
    cases vs with
    | nil => cases hvs
    | cons v vs =>
      obtain ⟨hv, hvs⟩ := List.cons.inj hvs
      obtain ⟨rest, hextract, hrest, hlength⟩ := extractUnsigned_word hwords hv
      cases fuel with
      | zero => omega
      | succ fuel =>
        rw [extractLoop, hextract]
        exact congrArg (v :: ·) (ih hrest hvs (by omega))

end Extract

section Cut

variable {c : UInt8} {s first rest : StdString}

theorem cut_eq_none_iff : cut c s = none ↔ c ∉ s := by
  induction s with
  | nil => simp [cut]
  | cons d s ih =>
    rw [cut]
    split
    case isTrue h => simp [h]
    case isFalse h => simp [ih, Ne.symm h]

theorem cut_append (h : c ∉ first) : cut c (first ++ c :: rest) = some (first, rest) := by
  induction first with
  | nil => simp [cut]
  | cons d first ih =>
    obtain ⟨hd, hfirst⟩ := not_or.mp fun h' => h (List.mem_cons.mpr h')
    rw [List.cons_append, cut, if_neg (Ne.symm hd), ih hfirst]
    rfl

theorem cut_eq_some_iff : cut c s = some (first, rest) ↔ s = first ++ c :: rest ∧ c ∉ first := by
  constructor
  · intro h
    induction s generalizing first with
    | nil => cases h
    | cons d s ih =>
      rw [cut] at h
      split at h
      case isTrue hd =>
        cases h
        exact ⟨by rw [hd]; rfl, by simp⟩
      case isFalse hd =>
        obtain ⟨⟨front, back⟩, hcut, heq⟩ := Option.map_eq_some_iff.mp h
        cases heq
        obtain ⟨rfl, hfront⟩ := ih hcut
        exact ⟨rfl, by simp [hfront, Ne.symm hd]⟩
  · rintro ⟨rfl, h⟩
    exact cut_append h

end Cut

end RpiDashboard.Daemon
