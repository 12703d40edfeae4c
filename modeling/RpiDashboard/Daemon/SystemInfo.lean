import Mathlib.Data.List.Dedup
import RpiDashboard.Daemon.Host

/-! `Collector::system_info` (`daemon/src/daemon.cpp`), one definition for each of the sections it
reports. -/

namespace RpiDashboard.Daemon

def lower (t : StdString) : StdString := t.map tolower
def upper (t : StdString) : StdString := t.map toupper

/-- The cleaned contents of a small file. -/
def cleanFile (h : Host) (path : String) : Option StdString :=
  (h.boundedRead (lit path) kSmallFileLimit).bind clean

section HostName

/-- What `gethostname` leaves in a buffer of 256 bytes, the last of which is then set to NUL. -/
def hostname (h : Host) : Option StdString :=
  match if h.isRoot then h.gethostname else none with
  | some name => clean (cString (name.take 255))
  | none => cleanFile h "/etc/hostname"

/-- The first label of the host name, if there is anything before the dot. -/
def hostName (h : Host) : Option StdString :=
  ((hostname h).map fun name => name.takeWhile (· ≠ 0x2e)).filter (· ≠ [])

def hostSection (h : Host) : StdMap :=
  StdMap.assignSome [] "host_name" ((hostName h).map .text)

end HostName

section Kernel

def unameField (h : Host) (field : Utsname → StdString) : Option StdString :=
  h.uname.bind fun u => clean (field u)

def kernelType (h : Host) : Option StdString := (unameField h Utsname.sysname).map lower
def kernelVersion (h : Host) : Option StdString := unameField h Utsname.release

def canonicalArchitecture (architecture : StdString) : StdString :=
  if architecture = lit "amd64" then lit "x86_64"
  else if architecture = lit "arm64" then lit "aarch64"
  else architecture

def architecture (h : Host) : Option StdString :=
  (unameField h Utsname.machine).map fun machine => canonicalArchitecture (lower machine)

def kernelSection (h : Host) : StdMap :=
  let kernel := StdMap.assignSome [] "kernel_type" ((kernelType h).map .text)
  kernel.assignSome "kernel_version" ((kernelVersion h).map .text)

end Kernel

section OsRelease

/-- Quotes around a value are taken off. -/
def unquote (value : StdString) : StdString :=
  if 1 < value.length ∧ value.head? = some 0x22 ∧ value.getLast? = some 0x22 then
    (value.drop 1).dropLast
  else value

/-- A key of `/etc/os-release` with its value, if that is clean. -/
def osReleaseLine (line : StdString) : Option (StdString × StdString) := do
  let (key, value) ← cut 0x3d line
  return (key, ← clean (unquote value))

/-- Of two lines with one key the later one counts. -/
def osRelease (h : Host) (key : String) : Option StdString := do
  let release ← h.boundedRead (lit "/etc/os-release") kSmallFileLimit
  ((release.splitOn 0x0a).filterMap osReleaseLine).reverse.lookup (lit key)

def osSection (h : Host) : StdMap :=
  let os := StdMap.assignSome [] "os_family" ((kernelType h).map .text)
  let os := os.assignSome "os_id" ((osRelease h "ID").map .text)
  let os := os.assignSome "os_version" ((osRelease h "VERSION_ID").map .text)
  os.assignSome "os_pretty_name" ((osRelease h "PRETTY_NAME").map .text)

end OsRelease

def totalBytes (h : Host) : Option UInt64 :=
  (h.boundedRead (lit "/proc/meminfo") kSmallFileLimit).bind memoryBytes

def memoryInfo (h : Host) : StdMap :=
  StdMap.assignSome [] "total_bytes" ((totalBytes h).map .unsigned)

section DeviceTree

def compatibleIds (h : Host) : List StdString :=
  match h.boundedRead (lit "/sys/firmware/devicetree/base/compatible") kSmallFileLimit with
  | some compatible => (compatible.splitOn 0).filterMap clean
  | none => []

def isPi (h : Host) : Bool := (compatibleIds h).any (lit "raspberrypi,").isPrefixOf

def piModel (h : Host) : Option StdString :=
  (h.boundedRead (lit "/sys/firmware/devicetree/base/model") kSmallFileLimit).bind fun text =>
    clean (text.filter (· ≠ 0))

def cpuInfo (h : Host) (key : String) : Option StdString :=
  (h.boundedRead (lit "/proc/cpuinfo") kCpuInfoLimit).bind fun contents => cpuInfoValue contents key

def hardwareSection (h : Host) : StdMap :=
  let hardware := StdMap.assignSome [] "manufacturer"
    ((cleanFile h "/sys/class/dmi/id/sys_vendor").map .text)
  let hardware := hardware.assignSome "model"
    ((cleanFile h "/sys/class/dmi/id/product_name").map .text)
  if isPi h then
    let hardware := hardware.assign (lit "manufacturer") (.text (lit "Raspberry Pi"))
    let hardware := hardware.assign (lit "compatible_ids") (.array ((compatibleIds h).map .text))
    let hardware := hardware.assignSome "model" ((piModel h).map .text)
    hardware.assignSome "board_revision" ((cpuInfo h "Revision").map .text)
  else hardware

end DeviceTree

section Cpu

def onlineCpus (h : Host) : Option (List Nat) :=
  (h.boundedRead (lit "/sys/devices/system/cpu/online") kSmallFileLimit).bind onlineCpuIds

/-- The package and the core of a processor. -/
def coreOf (h : Host) (id : Nat) : Option (Nat × Nat) := do
  let topology := lit "/sys/devices/system/cpu/cpu" ++ lit (toString id) ++ lit "/topology/"
  let package ← h.boundedRead (topology ++ lit "physical_package_id") kSmallFileLimit
  let core ← h.boundedRead (topology ++ lit "core_id") kSmallFileLimit
  return (← unsignedAtMost (trim package) 0xffffffff, ← unsignedAtMost (trim core) 0xffffffff)

/-- The number of cores, if the core of every processor is known. -/
def physicalCores (h : Host) (online : List Nat) : Option Nat :=
  ((online.mapM (coreOf h)).map fun cores => cores.dedup.length).filter fun count =>
    0 < count && count ≤ kMaximumCpuCount

def logicalCpuCount (h : Host) : Option Nat :=
  match onlineCpus h with
  | some online => some online.length
  | none =>
    if h.isRoot ∧ 0 < h.processors ∧ h.processors ≤ kMaximumCpuCount then some h.processors.toNat
    else none

def physicalCoreCount (h : Host) : Option Nat := (onlineCpus h).bind (physicalCores h)

/-- The processor of a device tree, without its maker. -/
def broadcomModel (h : Host) : Option StdString :=
  if isPi h then
    ((compatibleIds h).find? (lit "brcm,bcm").isPrefixOf).map fun id => upper (id.drop 5)
  else none

def countValue (count : Nat) : Value := .unsigned (UInt64.ofNat count)

def cpuInfoSection (h : Host) : StdMap :=
  let cpu := StdMap.assignSome [] "architecture" ((architecture h).map .text)
  let cpu := cpu.assignSome "vendor" ((cpuInfo h "vendor_id").map .text)
  let cpu := cpu.assignSome "model" ((cpuInfo h "model name").map .text)
  let cpu := cpu.assignSome "logical_cpu_count" ((logicalCpuCount h).map countValue)
  let cpu := cpu.assignSome "physical_core_count" ((physicalCoreCount h).map countValue)
  match broadcomModel h with
  | some model =>
    let cpu := cpu.assign (lit "vendor") (.text (lit "Broadcom"))
    cpu.assign (lit "model") (.text model)
  | none => cpu

end Cpu

/-- What the daemon says about the system; a section with nothing in it is left out. -/
def systemInfoRoot (h : Host) : StdMap :=
  let root := addObject [] "host" (hostSection h)
  let root := addObject root "os" (osSection h)
  let root := addObject root "kernel" (kernelSection h)
  let root := addObject root "hardware" (hardwareSection h)
  let root := addObject root "cpu" (cpuInfoSection h)
  addObject root "memory" (memoryInfo h)

def systemInfo (h : Host) : Value := .map (systemInfoRoot h)

end RpiDashboard.Daemon
