import RpiDashboard.Daemon.ConfigLaws
import RpiDashboard.Data.Strip

/-! The texts in which a configuration can be written, and that they are read back. -/

namespace RpiDashboard.Daemon

open Utf8

section Layout

inductive Key
  | host
  | port
  | intervalSeconds
  | displayName
  deriving DecidableEq

/-- The section of a key and its name there. -/
def Key.path : Key → StdString × StdString
  | .host => hostKey
  | .port => (lit "dashboard", lit "port")
  | .intervalSeconds => (lit "telemetry", lit "interval_seconds")
  | .displayName => displayNameKey

/-- Spaces, tabs and carriage returns. -/
def Pad (s : StdString) : Prop := ∀ c ∈ s, c = 0x20 ∨ c = 0x09 ∨ c = 0x0d

/-- A line of a text, in its parts. -/
inductive Line
  | empty (pad : StdString)
  | comment (before text : StdString)
  | header (before name after : StdString)
  | assignment (key : Key) (before afterName beforeValue raw after : StdString)

def Line.text : Line → StdString
  | .empty pad => pad
  | .comment before text => before ++ 0x23 :: text
  | .header before name after => before ++ (0x5b :: name ++ [0x5d]) ++ after
  | .assignment key before afterName beforeValue raw after =>
    before ++ (key.path.2 ++ afterName ++ 0x3d :: (beforeValue ++ raw)) ++ after

def Line.key? : Line → Option Key
  | .assignment key .. => some key
  | _ => none

/-- How the value of a key is written: a text in quotes, a number in decimal. -/
def Writes (c : Config) : Key → StdString → Prop
  | .host, raw => raw = 0x22 :: c.host ++ [0x22]
  | .port, raw => numeric raw ∧ decimal raw = c.port.toNat
  | .intervalSeconds, raw => numeric raw ∧ (decimal raw : Int) = c.intervalSeconds
  | .displayName, raw => raw = 0x22 :: c.displayName ++ [0x22]

def Line.Fits (c : Config) : Line → Prop
  | .empty pad => Pad pad
  | .comment before text => Pad before ∧ 0x0a ∉ text ∧ WellFormed text
  | .header before name after =>
    Pad before ∧ Pad after ∧ (name = lit "dashboard" ∨ name = lit "telemetry")
  | .assignment key before afterName beforeValue raw after =>
    Pad before ∧ Pad afterName ∧ Pad beforeValue ∧ Pad after ∧ Writes c key raw

/-- Every key stands under its section. -/
def Placed : StdString → List Line → Prop
  | _, [] => True
  | _, .header _ name _ :: lines => Placed name lines
  | sectionName, .assignment key .. :: lines => key.path.1 = sectionName ∧ Placed sectionName lines
  | sectionName, .empty _ :: lines => Placed sectionName lines
  | sectionName, .comment .. :: lines => Placed sectionName lines

/-- The lines of a text that assigns each key of a configuration once. -/
structure Layout (c : Config) where
  lines : List Line
  fits : ∀ line ∈ lines, line.Fits c
  placed : Placed [] lines
  once : (lines.filterMap Line.key?).Perm [.host, .port, .intervalSeconds, .displayName]

def Layout.text {c : Config} (layout : Layout c) : StdString :=
  [0x0a].intercalate (layout.lines.map Line.text)

/-- A text without backslashes and line breaks. -/
structure Plain (t : StdString) : Prop where
  wellFormed : WellFormed t
  plain : ∀ byte ∈ t, byte ≠ 0x5c ∧ byte ≠ 0x0d ∧ byte ≠ 0x0a

/-- A configuration that can be written. -/
structure Writable (c : Config) : Prop where
  host : Plain c.host
  nonempty : c.host ≠ []
  displayName : Plain c.displayName
  short : c.displayName.length ≤ 128
  port : 1 ≤ c.port.toNat
  interval : 1 ≤ c.intervalSeconds ∧ c.intervalSeconds ≤ 5

end Layout

section Trim

variable {s t before after : StdString}

theorem blank_of_pad (h : Pad s) : ∀ c ∈ s, blank c := by
  intro c hc
  rcases h c hc with rfl | rfl | rfl <;> rfl

/-- Text that starts and ends with something other than blanks. -/
structure Solid (s : StdString) : Prop where
  head : ∀ c ∈ s.head?, blank c = false
  last : ∀ c ∈ s.getLast?, blank c = false

theorem solid_iff_bare : Solid s ↔ Bare blank s :=
  ⟨fun h => ⟨h.head, h.last⟩, fun h => ⟨h.head, h.last⟩⟩

theorem trim_pads (hb : Pad before) (ha : Pad after) (hs : Solid s) :
    trim (before ++ s ++ after) = s :=
  strip_append (blank_of_pad hb) (blank_of_pad ha) (solid_iff_bare.mp hs)

theorem solid_between {m : StdString} (hs : Solid s) (hsne : s ≠ []) (ht : Solid t)
    (htne : t ≠ []) : Solid (s ++ m ++ t) := by
  rw [solid_iff_bare] at hs ht ⊢
  exact bare_between hs hsne ht htne m

/-- What follows a first character that is no blank does not matter to the front. -/
theorem head_trim {c : UInt8} (hb : Pad before) (hc : blank c = false) :
    (trim (before ++ c :: s)).head? = some c := by
  have hfront : (before ++ c :: s).dropWhile blank = c :: s :=
    dropWhile_front (blank_of_pad hb) fun d hd => by cases hd; exact hc
  rw [trim, hfront, List.head?_reverse, List.reverse_cons, List.dropWhile_append]
  split
  case isTrue => simp [hc]
  case isFalse => simp

end Trim

section Values

variable {c : Config} {key : Key} {raw s t : StdString}

theorem blank_of_isdigit {b : UInt8} (h : isdigit b) : blank b = false := by
  have hspace := isspace_of_isdigit h
  simp only [isspace, blank, Bool.or_eq_false_iff, Bool.and_eq_false_iff, decide_eq_false_iff_not,
    UInt8.le_iff_toNat_le] at hspace ⊢
  refine ⟨⟨⟨hspace.1, ?_⟩, ?_⟩, ?_⟩ <;> rintro rfl <;> simp at hspace

theorem solid_numeric (h : numeric raw) : Solid raw := by
  rw [numeric, Bool.and_eq_true, List.all_eq_true] at h
  exact ⟨fun d hd => blank_of_isdigit (h.2 d (List.mem_of_mem_head? hd)),
    fun d hd => blank_of_isdigit (h.2 d (List.mem_of_mem_getLast? hd))⟩

theorem solid_quotes (t : StdString) : Solid (0x22 :: t ++ [0x22]) := by
  constructor
  · rintro d hd
    cases hd
    rfl
  · intro d hd
    rw [List.getLast?_concat] at hd
    cases hd
    rfl

theorem solid_raw (h : Writes c key raw) : Solid raw := by
  cases key with
  | host =>
    obtain rfl : raw = _ := h
    exact solid_quotes _
  | port => exact solid_numeric h.1
  | intervalSeconds => exact solid_numeric h.1
  | displayName =>
    obtain rfl : raw = _ := h
    exact solid_quotes _

theorem raw_ne_nil (h : Writes c key raw) : raw ≠ [] := by
  rintro rfl
  cases key with
  | host => cases h
  | port => exact absurd h.1 (by decide)
  | intervalSeconds => exact absurd h.1 (by decide)
  | displayName => cases h

theorem quoted_quotes (h : Plain t) : quoted (0x22 :: t ++ [0x22]) = .ok t := by
  have hplain : ¬ t.any fun b => b = 0x5c || b = 0x0a || b = 0x0d := by
    simp only [List.any_eq_true, not_exists, not_and]
    intro b hb
    obtain ⟨hbackslash, hreturn, hline⟩ := h.plain b hb
    simp [hbackslash, hreturn, hline]
  have hlength : ¬ ((0x22 :: t ++ [0x22]).length < 2 ∨ (0x22 :: t ++ [0x22]).head? ≠ some 0x22 ∨
      (0x22 :: t ++ [0x22]).getLast? ≠ some 0x22) := by
    rw [List.getLast?_concat]
    simp
  rw [quoted, if_neg hlength, inner_concat, if_neg hplain]

theorem fromCharsInt_numeric (h : numeric raw) (hsmall : decimal raw < 2 ^ 31) :
    fromCharsInt raw = some (decimal raw : Int) := by
  have hminus : ∀ digits, raw ≠ 0x2d :: digits := by
    rintro digits rfl
    simp [numeric, isdigit] at h
  have hbound : -2 ^ 31 ≤ (decimal raw : Int) ∧ (decimal raw : Int) < 2 ^ 31 := by omega
  cases raw with
  | nil => simp [numeric] at h
  | cons b raw =>
    have hb : b ≠ 0x2d := fun heq => hminus raw (by rw [heq])
    unfold fromCharsInt
    split
    rename_i negative digits hparts
    split at hparts
    case h_1 heq => exact absurd (List.cons.inj heq).1 hb
    case h_2 =>
      cases hparts
      exact if_pos ⟨h, hbound⟩

theorem integer_numeric {n low high : Int} {message : String} (h : numeric raw)
    (hvalue : (decimal raw : Int) = n) (hlow : low ≤ n) (hhigh : n ≤ high)
    (hsmall : n < 2 ^ 31) : integer raw low high message = .ok n := by
  rw [integer, fromCharsInt_numeric h (by omega), hvalue]
  exact if_neg (by omega)

end Values

section Reading

variable {c : Config} {key : Key} {keys : List Key} {raw sectionName : StdString}

/-- The values of these keys; the others as they are without a text. -/
def assignedConfig (c : Config) (keys : List Key) : Config where
  host := if .host ∈ keys then c.host else []
  port := if .port ∈ keys then c.port else 51337
  intervalSeconds := if .intervalSeconds ∈ keys then c.intervalSeconds else 1
  displayName := if .displayName ∈ keys then c.displayName else []

/-- What is known once these keys have been assigned. -/
def known (c : Config) (sectionName : StdString) (keys : List Key) : Parsing :=
  ⟨assignedConfig c keys, sectionName, keys.map fun key => keyOf key.path⟩

theorem ofInt_toNat (n : UInt16) : UInt16.ofInt n.toNat = n := by
  have hlt := n.toNat_lt
  apply UInt16.toNat_inj.mp
  rw [UInt16.ofInt, UInt16.toNat_ofNat']
  omega

theorem assignValue_writes (hc : Writable c) (h : Writes c key raw) :
    assignValue (assignedConfig c keys) (keyOf key.path) raw =
      .ok (assignedConfig c (key :: keys)) := by
  have hpaths : keyOf Key.host.path = lit "dashboard.host" ∧
      keyOf Key.displayName.path = lit "telemetry.display_name" ∧
      keyOf Key.port.path = lit "dashboard.port" ∧
      keyOf Key.intervalSeconds.path = lit "telemetry.interval_seconds" := by
    decide +kernel
  obtain ⟨hhost, hname, hport, hinterval⟩ := hpaths
  cases key with
  | host =>
    obtain rfl : raw = _ := h
    rw [hhost, assignValue, if_pos rfl, quoted_quotes hc.host]
    simp [assignedConfig, pure, Except.pure, bind, Except.bind]
  | displayName =>
    obtain rfl : raw = _ := h
    rw [hname, assignValue, if_neg (by decide +kernel), if_pos rfl, quoted_quotes hc.displayName]
    simp [assignedConfig, pure, Except.pure, bind, Except.bind]
  | port =>
    have hvalue : (decimal raw : Int) = c.port.toNat := by exact_mod_cast h.2
    have hlow := hc.port
    have hhigh := c.port.toNat_lt
    rw [hport, assignValue, if_neg (by decide +kernel), if_neg (by decide +kernel), if_pos rfl,
      integer_numeric h.1 hvalue (by omega) (by omega) (by omega)]
    simp [assignedConfig, ofInt_toNat, pure, Except.pure, bind, Except.bind]
  | intervalSeconds =>
    obtain ⟨hlow, hhigh⟩ := hc.interval
    rw [hinterval, assignValue, if_neg (by decide +kernel), if_neg (by decide +kernel),
      if_neg (by decide +kernel), if_pos rfl,
      integer_numeric h.1 h.2 (by omega) (by omega) (by omega)]
    simp [assignedConfig, pure, Except.pure, bind, Except.bind]

/-- The name of a key starts with a letter and ends with one; there is no equals sign in it. -/
theorem name_spec (key : Key) : Solid key.path.2 ∧ 0x3d ∉ key.path.2 ∧
    key.path.2.head? ≠ none ∧ key.path.2.head? ≠ some 0x23 ∧ key.path.2.head? ≠ some 0x5b := by
  have hname : ∀ key : Key, (∀ b ∈ key.path.2.head?, blank b = false) ∧
      (∀ b ∈ key.path.2.getLast?, blank b = false) ∧ 0x3d ∉ key.path.2 ∧
      key.path.2.head? ≠ none ∧ key.path.2.head? ≠ some 0x23 ∧ key.path.2.head? ≠ some 0x5b := by
    intro key
    cases key <;> decide +kernel
  obtain ⟨hhead, hlast, hrest⟩ := hname key
  exact ⟨⟨hhead, hlast⟩, hrest⟩

theorem trim_name {pad s : StdString} (hpad : Pad pad) (hs : Solid s) :
    trim (pad ++ s) = s ∧ trim (s ++ pad) = s := by
  have hempty : Pad [] := by simp [Pad]
  constructor
  · simpa using trim_pads hpad hempty hs
  · simpa using trim_pads hempty hpad hs

theorem keyOf_injective {key key' : Key} (h : keyOf key.path = keyOf key'.path) : key = key' := by
  cases key <;> cases key' <;> first | rfl | exact absurd h (by decide +kernel)

theorem parse_assignment {before afterName beforeValue after : StdString} (hc : Writable c)
    (hfits : (Line.assignment key before afterName beforeValue raw after).Fits c)
    (hkey : key ∉ keys) (hsection : key.path.1 = sectionName) :
    parseLine (known c sectionName keys)
        (trim (Line.assignment key before afterName beforeValue raw after).text) =
      .ok (known c sectionName (key :: keys)) := by
  obtain ⟨hbefore, hafterName, hbeforeValue, hafter, hwrites⟩ := hfits
  obtain ⟨hsolid, hequals, hsome, hcomment, hbracket⟩ := name_spec key
  have hne : key.path.2 ≠ [] := fun h => hsome (by rw [h]; rfl)
  have hbody : Solid (key.path.2 ++ afterName ++ 0x3d :: (beforeValue ++ raw)) := by
    have hbetween := solid_between (m := afterName ++ 0x3d :: beforeValue) hsolid hne
      (solid_raw hwrites) (raw_ne_nil hwrites)
    simpa using hbetween
  have hhead : (key.path.2 ++ afterName ++ 0x3d :: (beforeValue ++ raw)).head? =
      key.path.2.head? := by
    rw [List.append_assoc, List.head?_append_of_ne_nil _ hne]
  have hcut : cut 0x3d (key.path.2 ++ afterName ++ 0x3d :: (beforeValue ++ raw)) =
      some (key.path.2 ++ afterName, beforeValue ++ raw) := by
    refine cut_append fun hmem => (List.mem_append.mp hmem).elim hequals fun hpad => ?_
    exact absurd (hafterName _ hpad) (by decide)
  have hnothing : ¬ (key.path.2 ++ afterName ++ 0x3d :: (beforeValue ++ raw) = [] ∨
      (key.path.2 ++ afterName ++ 0x3d :: (beforeValue ++ raw)).head? = some 0x23) := by
    rw [hhead]
    simp [hcomment]
  have hheader : ¬ headerLine (key.path.2 ++ afterName ++ 0x3d :: (beforeValue ++ raw)) := by
    rw [headerLine, hhead]
    simp [hbracket]
  have hplace : (known c sectionName keys).sectionName ≠ [] := by
    have hpath : key.path.1 ≠ [] := by cases key <;> decide +kernel
    rwa [hsection] at hpath
  have hfull : (known c sectionName keys).sectionName ++ lit "." ++
      trim (key.path.2 ++ afterName) = keyOf key.path := by
    rw [(trim_name hafterName hsolid).2, known, ← hsection]
    rfl
  have hnew : keyOf key.path ∉ (known c sectionName keys).seen := by
    intro hmem
    obtain ⟨old, hold, heq⟩ := List.mem_map.mp hmem
    exact hkey (keyOf_injective heq ▸ hold)
  have hassign : assignValue (known c sectionName keys).c (keyOf key.path) raw =
      .ok (assignedConfig c (key :: keys)) := assignValue_writes hc hwrites
  rw [Line.text, trim_pads hbefore hafter hbody, parseLine, if_neg hnothing, if_neg hheader, hcut]
  dsimp only
  rw [if_neg hplace, hfull, if_neg hnew, (trim_name hbeforeValue (solid_raw hwrites)).1, hassign]
  rfl

theorem parse_header {before name after : StdString}
    (hfits : (Line.header before name after).Fits c) :
    parseLine (known c sectionName keys) (trim (Line.header before name after).text) =
      .ok (known c name keys) := by
  obtain ⟨hbefore, hafter, hname⟩ := hfits
  have hsolid : Solid (0x5b :: name ++ [0x5d]) := by
    constructor
    · rintro d hd
      cases hd
      rfl
    · intro d hd
      rw [List.getLast?_concat] at hd
      cases hd
      rfl
  have hheader : headerLine (0x5b :: name ++ [0x5d]) := by
    rw [headerLine, List.getLast?_concat]
    rfl
  have hknown : ¬ (name ≠ lit "dashboard" ∧ name ≠ lit "telemetry") := by tauto
  rw [Line.text, trim_pads hbefore hafter hsolid, parseLine, if_neg (by simp), if_pos hheader,
    inner_concat, if_neg hknown]
  rfl

theorem parse_comment {before text : StdString} {p : Parsing}
    (hfits : (Line.comment before text).Fits c) :
    parseLine p (trim (Line.comment before text).text) = .ok p := by
  rw [Line.text, parseLine, if_pos (.inr (head_trim hfits.1 (by decide)))]

theorem parse_empty {pad : StdString} {p : Parsing} (hfits : (Line.empty pad).Fits c) :
    parseLine p (trim (Line.empty pad).text) = .ok p := by
  have hsolid : Solid [] := ⟨by simp, by simp⟩
  have htrim : trim pad = [] := by simpa using (trim_name hfits hsolid).1
  rw [Line.text, htrim, parseLine, if_pos (.inl rfl)]

/-- Lines that fit are parsed one after the other. -/
theorem parseLines_fits (hc : Writable c) {lines : List Line} (hfits : ∀ line ∈ lines, line.Fits c)
    (hplaced : Placed sectionName lines)
    (hnew : (lines.filterMap Line.key?).Nodup)
    (hkeys : ∀ key ∈ keys, key ∉ lines.filterMap Line.key?) :
    ∃ last, parseLines (known c sectionName keys) (lines.map Line.text) =
      .ok (known c last ((lines.filterMap Line.key?).reverse ++ keys)) := by
  induction lines generalizing sectionName keys with
  | nil => exact ⟨sectionName, rfl⟩
  | cons line lines ih =>
    obtain ⟨hline, hlines⟩ := List.forall_mem_cons.mp hfits
    have hstep : ∀ {p : Parsing}, parseLine (known c sectionName keys) (trim line.text) = .ok p →
        parseLines (known c sectionName keys) ((line :: lines).map Line.text) =
          parseLines p (lines.map Line.text) := by
      intro p hp
      rw [parseLines, List.map_cons, List.foldlM_cons, hp]
      rfl
    cases line with
    | empty pad =>
      rw [hstep (parse_empty hline)]
      exact ih hlines hplaced hnew hkeys
    | comment before text =>
      rw [hstep (parse_comment hline)]
      exact ih hlines hplaced hnew hkeys
    | header before name after =>
      rw [hstep (parse_header hline)]
      exact ih hlines hplaced hnew hkeys
    | assignment key before afterName beforeValue raw after =>
      obtain ⟨hsection, hplaced⟩ := hplaced
      have hcons : (Line.assignment key before afterName beforeValue raw after :: lines).filterMap
          Line.key? = key :: lines.filterMap Line.key? := rfl
      rw [hcons] at hnew hkeys ⊢
      obtain ⟨hkey, hnew⟩ := List.nodup_cons.mp hnew
      have hunseen : key ∉ keys := fun h => hkeys key h List.mem_cons_self
      have hlater : ∀ old ∈ key :: keys, old ∉ lines.filterMap Line.key? :=
        List.forall_mem_cons.mpr ⟨hkey, fun old hold hmem =>
          hkeys old hold (List.mem_cons_of_mem _ hmem)⟩
      rw [hstep (parse_assignment hc hline hunseen hsection), List.reverse_cons, List.append_assoc]
      exact ih hlines hplaced hnew hlater

end Reading

section Bytes

variable {c : Config} {line : Line} {raw s t : StdString} {key : Key}

theorem wellFormed_append (hs : WellFormed s) (ht : WellFormed t) : WellFormed (s ++ t) := by
  obtain ⟨cs, rfl, hcs⟩ := hs
  obtain ⟨ds, rfl, hds⟩ := ht
  refine ⟨cs ++ ds, List.flatten_append, fun d hd => ?_⟩
  exact (List.mem_append.mp hd).elim (hcs d) (hds d)

theorem wellFormed_ascii (h : ∀ b ∈ s, b ≤ 0x7f) : WellFormed s := by
  refine ⟨s.map fun b => [b], by simp [← List.flatMap_def], ?_⟩
  exact List.forall_mem_map.mpr fun b hb => by simpa [character] using h b hb

/-- A line is well formed and does not end inside. -/
structure OneLine (s : StdString) : Prop where
  wellFormed : WellFormed s
  unbroken : 0x0a ∉ s

theorem OneLine.append (hs : OneLine s) (ht : OneLine t) : OneLine (s ++ t) :=
  ⟨wellFormed_append hs.wellFormed ht.wellFormed,
    fun h => (List.mem_append.mp h).elim hs.unbroken ht.unbroken⟩

theorem oneLine_ascii (h : ∀ b ∈ s, b ≤ 0x7f ∧ b ≠ 0x0a) : OneLine s :=
  ⟨wellFormed_ascii fun b hb => (h b hb).1, fun hb => (h _ hb).2 rfl⟩

theorem OneLine.cons {b : UInt8} (hb : b ≤ 0x7f ∧ b ≠ 0x0a) (hs : OneLine s) : OneLine (b :: s) :=
  (oneLine_ascii (s := [b]) (by simpa using hb)).append hs

theorem oneLine_pad (h : Pad s) : OneLine s := by
  refine oneLine_ascii fun b hb => ?_
  rcases h b hb with rfl | rfl | rfl <;> decide

theorem oneLine_plain (h : Plain s) : OneLine s :=
  ⟨h.wellFormed, fun hb => (h.plain _ hb).2.2 rfl⟩

theorem oneLine_quotes (h : Plain s) : OneLine (0x22 :: s ++ [0x22]) :=
  ((oneLine_plain h).append (oneLine_ascii (by simp))).cons (by decide)

theorem oneLine_numeric (h : numeric raw) : OneLine raw := by
  rw [numeric, Bool.and_eq_true, List.all_eq_true] at h
  refine oneLine_ascii fun b hb => ?_
  have hdigit := h.2 b hb
  simp only [isdigit, Bool.and_eq_true, decide_eq_true_eq, UInt8.le_iff_toNat_le] at hdigit
  refine ⟨UInt8.le_iff_toNat_le.mpr ?_, ?_⟩
  · simp at hdigit ⊢
    omega
  · rintro rfl
    simp at hdigit

theorem oneLine_raw (hc : Writable c) (h : Writes c key raw) : OneLine raw := by
  cases key with
  | host =>
    obtain rfl : raw = _ := h
    exact oneLine_quotes hc.host
  | port => exact oneLine_numeric h.1
  | intervalSeconds => exact oneLine_numeric h.1
  | displayName =>
    obtain rfl : raw = _ := h
    exact oneLine_quotes hc.displayName

theorem oneLine_text (hc : Writable c) (h : line.Fits c) : OneLine line.text := by
  cases line with
  | empty pad => exact oneLine_pad h
  | comment before text =>
    obtain ⟨hbefore, hline, hwellFormed⟩ := h
    exact (oneLine_pad hbefore).append (OneLine.cons (by decide) ⟨hwellFormed, hline⟩)
  | header before name after =>
    obtain ⟨hbefore, hafter, hname⟩ := h
    have hsection : OneLine name := by
      rcases hname with rfl | rfl <;> exact oneLine_ascii (by decide +kernel)
    have hbrackets : OneLine (0x5b :: name ++ [0x5d]) :=
      (hsection.append (oneLine_ascii (by simp))).cons (by decide)
    exact ((oneLine_pad hbefore).append hbrackets).append (oneLine_pad hafter)
  | assignment key before afterName beforeValue raw after =>
    obtain ⟨hbefore, hafterName, hbeforeValue, hafter, hwrites⟩ := h
    have hname : OneLine key.path.2 := by
      cases key <;> exact oneLine_ascii (by decide +kernel)
    have hvalue := (oneLine_pad hbeforeValue).append (oneLine_raw hc hwrites)
    have hbody := (hname.append (oneLine_pad hafterName)).append (hvalue.cons (b := 0x3d) (by decide))
    exact ((oneLine_pad hbefore).append hbody).append (oneLine_pad hafter)

theorem wellFormed_lines {lines : List StdString} (h : ∀ line ∈ lines, OneLine line) :
    WellFormed ([0x0a].intercalate lines) := by
  induction lines with
  | nil => exact wellFormed_ascii (by simp)
  | cons line lines ih =>
    obtain ⟨hline, hlines⟩ := List.forall_mem_cons.mp h
    cases lines with
    | nil => simpa using hline.wellFormed
    | cons next lines =>
      rw [List.intercalate_cons_cons]
      exact wellFormed_append (wellFormed_append hline.wellFormed (wellFormed_ascii (by simp)))
        (ih hlines)

end Bytes

section RoundTrip

/-- Every layout of a configuration is parsed to it. -/
theorem parseConfig_layout {c : Config} (hc : Writable c) (layout : Layout c) :
    parseConfig layout.text = .ok c := by
  have hlines : ∀ line ∈ layout.lines.map Line.text, OneLine line :=
    List.forall_mem_map.mpr fun line hline => oneLine_text hc (layout.fits line hline)
  have hmem : ∀ key, key ∈ layout.lines.filterMap Line.key? := by
    intro key
    rw [layout.once.mem_iff]
    cases key <;> simp
  have hne : layout.lines.map Line.text ≠ [] := by
    intro hnil
    rw [List.map_eq_nil_iff] at hnil
    simpa [hnil] using hmem .host
  have hsplit : layout.text.splitOn 0x0a = layout.lines.map Line.text :=
    List.splitOn_intercalate 0x0a (fun line hline => (hlines line hline).unbroken) hne
  have hutf8 : ¬ !utf8 layout.text := by
    rw [Layout.text, utf8_of_wellFormed (wellFormed_lines hlines)]
    decide
  have hnodup : (layout.lines.filterMap Line.key?).Nodup := layout.once.nodup_iff.mpr (by decide)
  obtain ⟨last, hparsed⟩ : ∃ last, parseLines (known c [] []) (layout.lines.map Line.text) =
      .ok (known c last ((layout.lines.filterMap Line.key?).reverse ++ [])) :=
    parseLines_fits hc layout.fits layout.placed hnodup (by simp)
  have hconfig : (known c last ((layout.lines.filterMap Line.key?).reverse ++ [])).c = c := by
    simp only [known, assignedConfig, List.append_nil, List.mem_reverse, hmem, if_true]
  have hstart : known c [] [] = {} := rfl
  rw [hstart] at hparsed
  rw [parseConfig, if_neg hutf8, hsplit, hparsed]
  simp only [bind, Except.bind, hconfig]
  rw [if_neg hc.nonempty, if_neg (Nat.not_lt.mpr hc.short)]
  rfl

/-- A key of a section that is assigned twice is not accepted, whatever else the text has. -/
theorem parseConfig_repeated {text : StdString}
    (h : ¬ ((assignments [] (text.splitOn 0x0a)).map Prod.fst).Nodup) :
    ∃ message, parseConfig text = .error message := by
  cases hparsed : parseConfig text with
  | error message => exact ⟨message, rfl⟩
  | ok c =>
    have hnodup := (parseConfig_spec hparsed).2
    rw [← Function.comp_def keyOf Prod.fst, ← List.map_map] at hnodup
    exact absurd hnodup.of_map h

/-- A configuration is read from each of its layouts, and no text that assigns a key twice is
accepted. -/
theorem config_round_trip :
    (∀ c, Writable c → ∀ layout : Layout c, parseConfig layout.text = .ok c) ∧
      ∀ text, ¬ ((assignments [] (text.splitOn 0x0a)).map Prod.fst).Nodup →
        ∃ message, parseConfig text = .error message :=
  ⟨fun _ => parseConfig_layout, fun _ => parseConfig_repeated⟩

def writtenConfig : Config := { host := lit "pi", port := 1, displayName := [] }

theorem pad_nil : Pad [] := by simp [Pad]

/-- Both sections, the second one opened twice, and a comment. -/
def writtenLayout : Layout writtenConfig where
  lines := [
    .header [] (lit "telemetry") [],
    .assignment .intervalSeconds [] [] [] (lit "01") [],
    .header [] (lit "dashboard") [],
    .assignment .port [] [] [] (lit "1") [],
    .comment [] (lit " \"host\""),
    .assignment .host [] [] [] (lit "\"pi\"") [],
    .header [] (lit "telemetry") [],
    .assignment .displayName [] [] [] (lit "\"\"") []]
  fits := by
    have hcomment : WellFormed (lit " \"host\"") := wellFormed_ascii (by decide +kernel)
    simp only [List.forall_mem_cons, List.not_mem_nil, false_imp_iff, implies_true, Line.Fits, Writes,
      pad_nil, hcomment]
    decide +kernel
  placed := by simp [Placed, Key.path, hostKey, displayNameKey]
  once := by decide

theorem config_round_trip_sample :
    parseConfig writtenLayout.text = .ok writtenConfig ∧
      ∃ message, parseConfig (lit "[dashboard]\nport=1\nx\nport=1") = .error message := by
  refine ⟨config_round_trip.1 _ ⟨⟨?_, ?_⟩, ?_, ⟨?_, ?_⟩, ?_, ?_, ?_⟩ writtenLayout,
    config_round_trip.2 _ ?_⟩
  · exact wellFormed_ascii (by decide +kernel)
  · decide +kernel
  · decide +kernel
  · exact wellFormed_ascii (by decide +kernel)
  all_goals decide +kernel

end RoundTrip

end RpiDashboard.Daemon
