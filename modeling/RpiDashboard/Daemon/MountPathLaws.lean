import RpiDashboard.Daemon.Metrics

/-! The paths in `/proc/self/mountinfo`: how the kernel writes them, and that they are read back. -/

namespace RpiDashboard.Daemon

/-- A byte as a backslash and its three octal digits. -/
def octalEscape (c : UInt8) : StdString :=
  [0x5c, 0x30 + c / 64, 0x30 + c / 8 % 8, 0x30 + c % 8]

/-- How the kernel writes a path: spaces, tabs, newlines, backslashes and `#` are escaped. -/
def escape (path : StdString) : StdString :=
  path.flatMap fun c => if c ∈ lit " \t\n\\#" then octalEscape c else [c]

variable {c : UInt8} {s path : StdString}

/-- Only a backslash starts an escape. -/
theorem mountPath_cons (h : c ≠ 0x5c) : mountPath (c :: s) = c :: mountPath s := by
  match s with
  | [] | [_] | [_, _] => rfl
  | x :: y :: z :: s => rw [mountPath, if_neg fun hescape => h hescape.1]

theorem octal_digits (c : UInt8) :
    octal (0x30 + c / 64) ∧ octal (0x30 + c / 8 % 8) ∧ octal (0x30 + c % 8) ∧
      (0x30 + c / 64 - 0x30) * 64 + (0x30 + c / 8 % 8 - 0x30) * 8 + (0x30 + c % 8 - 0x30) = c := by
  revert c
  exact forall_byte (by decide +kernel)

/-- An escape is read back whatever follows it, also at the end of the text. -/
theorem mountPath_octalEscape (c : UInt8) (s : StdString) :
    mountPath (octalEscape c ++ s) = c :: mountPath s := by
  obtain ⟨hfirst, hsecond, hthird, hvalue⟩ := octal_digits c
  rw [octalEscape, List.cons_append, List.cons_append, List.cons_append, List.cons_append,
    List.nil_append, mountPath, if_pos ⟨rfl, hfirst, hsecond, hthird⟩, hvalue]

theorem mountPath_escape (path : StdString) : mountPath (escape path) = path := by
  induction path with
  | nil => rfl
  | cons c path ih =>
    rw [escape, List.flatMap_cons, ← escape]
    split
    case isTrue => rw [mountPath_octalEscape, ih]
    case isFalse h =>
      have hplain : c ≠ 0x5c := fun hc => h (hc ▸ by decide)
      rw [List.singleton_append, mountPath_cons hplain, ih]

/-- A line of a mount point gives the mount of this mount point, if it gives one. -/
theorem mountOf_escape {line : StdString} {mount : Mount} (h : mountOf line = some mount)
    (hfield : (words line).getD 4 [] = escape path) : mount.mountPoint = path := by
  unfold mountOf at h
  dsimp only at h
  split at h
  case isTrue => cases h
  case isFalse =>
    split at h
    case isTrue => cases h
    case isFalse =>
      obtain rfl := Option.some.inj h
      rw [hfield, mountPath_escape]

/-- Unescaping inverts the kernel's escaping, so that two mount points never become one. -/
theorem mountPath_inverts : Function.LeftInverse mountPath escape ∧
    Function.Injective fun path => mountPath (escape path) := by
  constructor
  · exact mountPath_escape
  · intro path other h
    exact (mountPath_escape path).symm.trans (h.trans (mountPath_escape other))

end RpiDashboard.Daemon
