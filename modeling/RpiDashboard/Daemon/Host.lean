import Mathlib.Data.List.Sort
import RpiDashboard.Daemon.Text

/-! What the daemon can see of the system it runs on. -/

namespace RpiDashboard.Daemon

/-- The names in a directory, in the order in which they are listed. -/
structure Directory where
  names : List StdString
  nodup : names.Nodup

def Directory.empty : Directory := ⟨[], List.nodup_nil⟩

structure Statvfs where
  blocks : UInt64
  bavail : UInt64
  frsize : UInt64

structure Utsname where
  sysname : StdString
  release : StdString
  machine : StdString

/-- Files, directories and mounts by their paths below `root_`, and what the system calls
return; none where they fail. -/
structure Host where
  /-- Whether `root_` is `/`. -/
  isRoot : Bool := true
  file : StdString → Option (List UInt8)
  directory : StdString → Directory := fun _ => .empty
  statvfs : StdString → Option Statvfs := fun _ => none
  gethostname : Option StdString := none
  uname : Option Utsname := none
  processors : Int := -1

def kSmallFileLimit : Nat := 64 * 1024
def kCpuInfoLimit : Nat := 1024 * 1024
def kProcLimit : Nat := 1024 * 1024
def kSysfsLimit : Nat := 4096

namespace Host

def boundedRead (h : Host) (path : StdString) (maximumBytes : Nat) : Option StdString :=
  (h.file path).filter (·.length ≤ maximumBytes)

def directoryEntries (h : Host) (path : String) : List StdString :=
  (h.directory (lit path)).names.insertionSort (· ≤ ·)

end Host

end RpiDashboard.Daemon
