import RpiDashboard.Daemon.Config
import RpiDashboard.Daemon.TextLaws

/-! What `parse_config` makes of the lines of a text. -/

namespace RpiDashboard.Daemon

open Utf8

theorem bind_ok {α β : Type} {x : Parsed α} {f : α → Parsed β} {b : β} (h : (x >>= f) = .ok b) :
    ∃ a, x = .ok a ∧ f a = .ok b := by
  cases x with
  | error e => cases h
  | ok a => exact ⟨a, rfl, h⟩

section Lines

/-- What the lines of a text assign: the section and the name of a key, and its raw value. -/
def assignments : StdString → List StdString → List ((StdString × StdString) × StdString)
  | _, [] => []
  | sectionName, line :: lines =>
    let line := trim line
    if line = [] ∨ line.head? = some 0x23 then assignments sectionName lines
    else if headerLine line then assignments (inner line) lines
    else
      match cut 0x3d line with
      | some (name, value) => ((sectionName, trim name), trim value) :: assignments sectionName lines
      | none => assignments sectionName lines

def keyOf (path : StdString × StdString) : StdString := path.1 ++ lit "." ++ path.2

def assignValues (c : Config) (entries : List ((StdString × StdString) × StdString)) : Parsed Config :=
  entries.foldlM (fun c entry => assignValue c (keyOf entry.1) entry.2) c

variable {p p' : Parsing} {line : StdString} {lines : List StdString}

/-- What a line that is parsed can do. -/
theorem parseLine_cases (h : parseLine p line = .ok p') :
    ((line = [] ∨ line.head? = some 0x23) ∧ p' = p) ∨
    (¬ (line = [] ∨ line.head? = some 0x23) ∧ headerLine line ∧
      p' = { p with sectionName := inner line }) ∨
    (¬ (line = [] ∨ line.head? = some 0x23) ∧ ¬ headerLine line ∧ ∃ name value c,
      cut 0x3d line = some (name, value) ∧ keyOf (p.sectionName, trim name) ∉ p.seen ∧
      assignValue p.c (keyOf (p.sectionName, trim name)) (trim value) = .ok c ∧
      p' = { p with c := c, seen := keyOf (p.sectionName, trim name) :: p.seen }) := by
  unfold parseLine at h
  split at h
  case isTrue hnothing =>
    cases h
    exact .inl ⟨hnothing, rfl⟩
  case isFalse hsomething =>
    refine .inr ?_
    split at h
    case isTrue hheader =>
      split at h
      case isTrue => cases h
      case isFalse =>
        cases h
        exact .inl ⟨hsomething, hheader, rfl⟩
    case isFalse hheader =>
      refine .inr ⟨hsomething, hheader, ?_⟩
      cases hcut : cut 0x3d line with
      | none => simp [hcut] at h
      | some parts =>
        obtain ⟨name, value⟩ := parts
        simp only [hcut] at h
        split at h
        case isTrue => cases h
        case isFalse =>
          split at h
          case isTrue => cases h
          case isFalse hnew =>
            obtain ⟨c, hc, hp⟩ := bind_ok h
            cases hp
            exact ⟨name, value, c, rfl, hnew, hc, rfl⟩

/-- Lines that are parsed assign their values one after the other, and no key twice. -/
theorem parseLines_spec (h : parseLines p lines = .ok p') :
    assignValues p.c (assignments p.sectionName lines) = .ok p'.c ∧
      ((assignments p.sectionName lines).map (keyOf ·.1)).Nodup ∧
      ∀ entry ∈ assignments p.sectionName lines, keyOf entry.1 ∉ p.seen := by
  induction lines generalizing p with
  | nil =>
    cases h
    exact ⟨rfl, List.nodup_nil, by simp [assignments]⟩
  | cons line lines ih =>
    obtain ⟨middle, hline, hlines⟩ := bind_ok h
    obtain ⟨hassign, hnodup, hseen⟩ := ih hlines
    rw [assignments]
    rcases parseLine_cases hline with ⟨hnothing, rfl⟩ | ⟨hsomething, hheader, rfl⟩ |
      ⟨hsomething, hheader, name, value, c, hcut, hnew, hc, rfl⟩
    · simp only [if_pos hnothing]
      exact ⟨hassign, hnodup, hseen⟩
    · simp only [if_neg hsomething, if_pos hheader]
      exact ⟨hassign, hnodup, hseen⟩
    · simp only [if_neg hsomething, if_neg hheader, hcut]
      refine ⟨?_, ?_, ?_⟩
      · rw [assignValues, List.foldlM_cons, hc]
        exact hassign
      · refine List.nodup_cons.mpr ⟨fun hmem => ?_, hnodup⟩
        obtain ⟨entry, hentry, heq⟩ := List.mem_map.mp hmem
        exact hseen entry hentry (heq ▸ List.mem_cons_self)
      · refine List.forall_mem_cons.mpr ⟨hnew, fun entry hentry hold => ?_⟩
        exact hseen entry hentry (List.mem_cons_of_mem _ hold)

theorem parseConfig_spec {text : StdString} {c : Config} (h : parseConfig text = .ok c) :
    assignValues { host := [], displayName := [] } (assignments [] (text.splitOn 0x0a)) = .ok c ∧
      ((assignments [] (text.splitOn 0x0a)).map (keyOf ·.1)).Nodup := by
  unfold parseConfig at h
  split at h
  case isTrue => cases h
  case isFalse =>
    obtain ⟨p, hp, hc⟩ := bind_ok h
    obtain ⟨hassign, hnodup, -⟩ := parseLines_spec hp
    split at hc
    case isTrue => cases hc
    case isFalse =>
      split at hc
      case isTrue => cases hc
      case isFalse =>
        cases hc
        exact ⟨hassign, hnodup⟩

end Lines

section Quotes

def hostKey : StdString × StdString := (lit "dashboard", lit "host")
def displayNameKey : StdString × StdString := (lit "telemetry", lit "display_name")

/-- A raw value read as TOML reads it: up to the next quote, with only blanks or a comment after
that. -/
def ReadsToml (raw value : StdString) : Prop :=
  ∃ after, raw = 0x22 :: value ++ 0x22 :: after ∧ 0x22 ∉ value ∧
    ∀ c ∈ (after.dropWhile blank).head?, c = 0x23

variable {c c' : Config} {key raw v : StdString}
  {entries : List ((StdString × StdString) × StdString)}

theorem inner_concat (a b : UInt8) (v : StdString) : inner (a :: v ++ [b]) = v := by
  simp [inner]

theorem quoted_eq_ok (h : quoted raw = .ok v) : raw = 0x22 :: v ++ [0x22] ∧ v = inner raw := by
  unfold quoted at h
  split at h
  case isTrue => cases h
  case isFalse hquotes =>
    split at h
    case isTrue => cases h
    case isFalse =>
      cases h
      simp only [not_or, not_not, Nat.not_lt] at hquotes
      obtain ⟨hlength, hhead, hlast⟩ := hquotes
      obtain ⟨rest, rfl⟩ := List.head?_eq_some_iff.mp hhead
      have hne : rest ≠ [] := by
        rintro rfl
        simp at hlength
      rw [List.getLast?_cons_of_ne_nil hne] at hlast
      obtain ⟨front, rfl⟩ := List.getLast?_eq_some_iff.mp hlast
      rw [← List.cons_append, inner_concat]
      exact ⟨rfl, rfl⟩

/-- A raw value that the parser takes is read as TOML reads it just if there is no quote inside. -/
theorem readsToml_iff (h : quoted raw = .ok v) : ReadsToml raw v ↔ 0x22 ∉ inner raw := by
  obtain ⟨hraw, hinner⟩ := quoted_eq_ok h
  rw [← hinner]
  constructor
  case mp => exact fun ⟨_, _, hquote, _⟩ => hquote
  case mpr => exact fun hquote => ⟨[], hraw, hquote, by simp⟩

theorem assignValue_cases (h : assignValue c key raw = .ok c') :
    (key = lit "dashboard.host" ∧ ∃ v, quoted raw = .ok v ∧ c' = { c with host := v }) ∨
    (key = lit "telemetry.display_name" ∧ ∃ v, quoted raw = .ok v ∧
      c' = { c with displayName := v }) ∨
    (key ∈ [lit "dashboard.port", lit "telemetry.interval_seconds"] ∧ c'.host = c.host ∧
      c'.displayName = c.displayName) := by
  unfold assignValue at h
  split at h
  case isTrue hkey =>
    obtain ⟨v, hv, hc⟩ := bind_ok h
    cases hc
    exact .inl ⟨hkey, v, hv, rfl⟩
  case isFalse =>
    refine .inr ?_
    split at h
    case isTrue hkey =>
      obtain ⟨v, hv, hc⟩ := bind_ok h
      cases hc
      exact .inl ⟨hkey, v, hv, rfl⟩
    case isFalse =>
      refine .inr ?_
      split at h
      case isTrue hkey =>
        obtain ⟨v, -, hc⟩ := bind_ok h
        cases hc
        exact ⟨by simp [hkey], rfl, rfl⟩
      case isFalse =>
        split at h
        case isTrue hkey =>
          obtain ⟨v, -, hc⟩ := bind_ok h
          cases hc
          exact ⟨by simp [hkey], rfl, rfl⟩
        case isFalse => cases h

theorem numberKeys_other : ∀ key ∈ [lit "dashboard.port", lit "telemetry.interval_seconds"],
    key ≠ lit "dashboard.host" ∧ key ≠ lit "telemetry.display_name" := by
  decide +kernel

theorem host_ne_displayName : lit "dashboard.host" ≠ lit "telemetry.display_name" := by
  decide +kernel

theorem assignValue_host (h : assignValue c key raw = .ok c') :
    (key = lit "dashboard.host" → quoted raw = .ok c'.host) ∧
      (key ≠ lit "dashboard.host" → c'.host = c.host) := by
  rcases assignValue_cases h with ⟨hkey, v, hv, rfl⟩ | ⟨rfl, v, -, rfl⟩ | ⟨hkey, hhost, -⟩
  · exact ⟨fun _ => hv, fun hne => absurd hkey hne⟩
  · exact ⟨fun heq => absurd heq.symm host_ne_displayName, fun _ => rfl⟩
  · exact ⟨fun heq => absurd heq (numberKeys_other key hkey).1, fun _ => hhost⟩

theorem assignValue_displayName (h : assignValue c key raw = .ok c') :
    (key = lit "telemetry.display_name" → quoted raw = .ok c'.displayName) ∧
      (key ≠ lit "telemetry.display_name" → c'.displayName = c.displayName) := by
  rcases assignValue_cases h with ⟨rfl, v, -, rfl⟩ | ⟨hkey, v, hv, rfl⟩ | ⟨hkey, -, hname⟩
  · exact ⟨fun heq => absurd heq host_ne_displayName, fun _ => rfl⟩
  · exact ⟨fun _ => hv, fun hne => absurd hkey hne⟩
  · exact ⟨fun heq => absurd heq (numberKeys_other key hkey).2, fun _ => hname⟩

/-- A value that is assigned once is kept. -/
theorem assignValues_kept {field : Config → StdString}
    (hfield : ∀ c key' raw c', assignValue c key' raw = .ok c' →
      (key' = key → quoted raw = .ok (field c')) ∧ (key' ≠ key → field c' = field c))
    (h : assignValues c entries = .ok c') (hnodup : (entries.map (keyOf ·.1)).Nodup) :
    (key ∉ entries.map (keyOf ·.1) → field c' = field c) ∧
      ∀ entry ∈ entries, keyOf entry.1 = key → quoted entry.2 = .ok (field c') := by
  induction entries generalizing c with
  | nil =>
    cases h
    exact ⟨fun _ => rfl, by simp⟩
  | cons entry entries ih =>
    obtain ⟨middle, hentry, hentries⟩ := bind_ok h
    obtain ⟨hnew, hnodup⟩ := List.nodup_cons.mp hnodup
    obtain ⟨hkept, hassigned⟩ := ih hentries hnodup
    obtain ⟨hself, hother⟩ := hfield _ _ _ _ hentry
    constructor
    · intro hkey
      obtain ⟨hne, hrest⟩ := not_or.mp fun h => hkey (List.mem_cons.mpr h)
      rw [hkept hrest, hother (Ne.symm hne)]
    · refine List.forall_mem_cons.mpr ⟨fun heq => ?_, hassigned⟩
      rw [hkept (heq ▸ hnew)]
      exact hself heq

/-- The string values of an accepted text. -/
theorem parseConfig_quoted {text : StdString} (h : parseConfig text = .ok c) :
    ∀ entry ∈ assignments [] (text.splitOn 0x0a),
      (entry.1 = hostKey → quoted entry.2 = .ok c.host) ∧
        (entry.1 = displayNameKey → quoted entry.2 = .ok c.displayName) := by
  obtain ⟨hassign, hnodup⟩ := parseConfig_spec h
  have hhost := (assignValues_kept (fun _ _ _ _ => assignValue_host) hassign hnodup).2
  have hname := (assignValues_kept (fun _ _ _ _ => assignValue_displayName) hassign hnodup).2
  refine fun entry hentry => ⟨fun hkey => hhost entry hentry ?_, fun hkey => hname entry hentry ?_⟩
  · rw [hkey]
    decide +kernel
  · rw [hkey]
    decide +kernel

/-- The string values of an accepted text are read as TOML reads them just if none of them has a
quote between its first and its last character: the parser does not look there. -/
theorem quoted_values_iff {text : StdString} (h : parseConfig text = .ok c) :
    (∀ entry ∈ assignments [] (text.splitOn 0x0a),
      (entry.1 = hostKey → ReadsToml entry.2 c.host) ∧
        (entry.1 = displayNameKey → ReadsToml entry.2 c.displayName)) ↔
    ∀ entry ∈ assignments [] (text.splitOn 0x0a),
      entry.1 = hostKey ∨ entry.1 = displayNameKey → 0x22 ∉ inner entry.2 := by
  refine forall₂_congr fun entry hentry => ?_
  obtain ⟨hhost, hname⟩ := parseConfig_quoted h entry hentry
  rw [or_imp]
  exact and_congr (forall_congr' fun hkey => readsToml_iff (hhost hkey))
    (forall_congr' fun hkey => readsToml_iff (hname hkey))

/-- A text whose host is followed by a comment that ends with a quote. -/
def commentedHost : StdString := lit "[dashboard]\nhost = \"a\" # \"b\"\n"

theorem commentedHost_accepted : parseConfig commentedHost =
    .ok { host := lit "a\" # \"b", displayName := [] } := by
  rfl

theorem comment_swallowed : parseConfig commentedHost =
      .ok { host := lit "a\" # \"b", displayName := [] } ∧
    ¬ ∀ entry ∈ assignments [] (commentedHost.splitOn 0x0a),
      entry.1 = hostKey → ReadsToml entry.2 (lit "a\" # \"b") := by
  refine ⟨commentedHost_accepted, fun h => ?_⟩
  have hentry : (hostKey, lit "\"a\" # \"b\"") ∈ assignments [] (commentedHost.splitOn 0x0a) := by
    decide +kernel
  obtain ⟨_, -, hquote, -⟩ := h _ hentry rfl
  exact absurd hquote (by decide +kernel)

theorem quoted_values_sample :
    (∀ entry ∈ assignments [] (commentedHost.splitOn 0x0a),
      (entry.1 = hostKey → ReadsToml entry.2 (lit "a\" # \"b")) ∧
        (entry.1 = displayNameKey → ReadsToml entry.2 [])) ↔
    ∀ entry ∈ assignments [] (commentedHost.splitOn 0x0a),
      entry.1 = hostKey ∨ entry.1 = displayNameKey → 0x22 ∉ inner entry.2 :=
  quoted_values_iff commentedHost_accepted

end Quotes

end RpiDashboard.Daemon
