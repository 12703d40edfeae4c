import RpiDashboard.Daemon.BuildLaws
import RpiDashboard.Daemon.SystemInfo
import RpiDashboard.Data.View

/-! What `Collector::system_info` does not report of `/proc/cpuinfo`. -/

namespace RpiDashboard.Daemon

/-- The keys of the lines that are reported. -/
def cpuInfoKeys : List StdString := ["vendor_id", "model name", "Revision"].map lit

def reportable (contents : StdString) : List StdString :=
  (contents.splitOn 0x0a).filter fun line =>
    (cut 0x3a line).any fun (name, _) => trim name ∈ cpuInfoKeys

/-- Files that differ in other lines of `/proc/cpuinfo` at most, which is not too long. -/
structure Unreported (files files' : StdString → Option StdString) : Prop
    extends AgreeBut reportable (lit "/proc/cpuinfo") files files' where
  within : ∀ contents ∈ files (lit "/proc/cpuinfo"), contents.length ≤ kCpuInfoLimit
  within' : ∀ contents ∈ files' (lit "/proc/cpuinfo"), contents.length ≤ kCpuInfoLimit

theorem cpuInfoField_eq {key : String} (hkey : lit key ∈ cpuInfoKeys) {contents contents' : StdString}
    (h : reportable contents = reportable contents') :
    cpuInfoField contents key = cpuInfoField contents' key := by
  refine findSome?_eq_of_filter_eq (fun line htaken => ?_) h
  cases hcut : cut 0x3a line with
  | none =>
    rw [hcut] at htaken
    cases htaken
  | some parts =>
    rw [hcut, Option.bind_some] at htaken
    split at htaken
    split at htaken
    case isTrue hname =>
      exact decide_eq_true (hname ▸ hkey)
    case isFalse => cases htaken

section Sections

variable {h : Host} {files' : StdString → Option StdString}

theorem Unreported.boundedRead_eq (hu : Unreported h.file files') (path : StdString)
    (hp : path ≠ lit "/proc/cpuinfo") (limit : Nat) :
    Host.boundedRead { h with file := files' } path limit = h.boundedRead path limit :=
  congrArg (Option.filter _) (hu.elsewhere path hp)

theorem Unreported.cpuInfo_eq (hu : Unreported h.file files') (key : String)
    (hkey : lit key ∈ cpuInfoKeys) : cpuInfo { h with file := files' } key = cpuInfo h key :=
  hu.bounded_eq (fun contents hc => decide_eq_true (hu.within contents hc))
    (fun contents hc => decide_eq_true (hu.within' contents hc)) fun _ _ hview =>
      congrArg (·.bind clean) (cpuInfoField_eq hkey hview)

theorem Unreported.cleanFile_eq (hu : Unreported h.file files') (path : String)
    (hp : lit path ≠ lit "/proc/cpuinfo") :
    cleanFile { h with file := files' } path = cleanFile h path :=
  congrArg (·.bind clean) (hu.boundedRead_eq _ hp kSmallFileLimit)

theorem Unreported.hostSection_eq (hu : Unreported h.file files') :
    hostSection { h with file := files' } = hostSection h := by
  have hname : hostname { h with file := files' } = hostname h := by
    simp only [hostname, hu.cleanFile_eq "/etc/hostname" (by simp)]
  simp only [hostSection, hostName, hname]

theorem Unreported.osSection_eq (hu : Unreported h.file files') :
    osSection { h with file := files' } = osSection h := by
  have hrelease (key : String) : osRelease { h with file := files' } key = osRelease h key := by
    simp only [osRelease, hu.boundedRead_eq (lit "/etc/os-release") (by simp)]
  simp only [osSection, hrelease]
  rfl

theorem Unreported.memoryInfo_eq (hu : Unreported h.file files') :
    memoryInfo { h with file := files' } = memoryInfo h := by
  simp only [memoryInfo, totalBytes,
    hu.boundedRead_eq (lit "/proc/meminfo") (by simp)]

theorem Unreported.compatibleIds_eq (hu : Unreported h.file files') :
    compatibleIds { h with file := files' } = compatibleIds h := by
  simp only [compatibleIds, hu.boundedRead_eq
    (lit "/sys/firmware/devicetree/base/compatible") (by simp)]

theorem Unreported.isPi_eq (hu : Unreported h.file files') :
    isPi { h with file := files' } = isPi h := by
  simp only [isPi, hu.compatibleIds_eq]

theorem Unreported.broadcomModel_eq (hu : Unreported h.file files') :
    broadcomModel { h with file := files' } = broadcomModel h := by
  simp only [broadcomModel, hu.isPi_eq, hu.compatibleIds_eq]

theorem Unreported.hardwareSection_eq (hu : Unreported h.file files') :
    hardwareSection { h with file := files' } = hardwareSection h := by
  have hmodel : piModel { h with file := files' } = piModel h := by
    simp only [piModel, hu.boundedRead_eq
      (lit "/sys/firmware/devicetree/base/model") (by simp)]
  simp only [hardwareSection, hu.isPi_eq, hu.compatibleIds_eq, hmodel,
    hu.cleanFile_eq "/sys/class/dmi/id/sys_vendor" (by simp),
    hu.cleanFile_eq "/sys/class/dmi/id/product_name" (by simp),
    hu.cpuInfo_eq "Revision" (by simp [cpuInfoKeys])]

/-- No file below `/sys` is `/proc/cpuinfo`. -/
theorem topology_ne (rest : StdString) :
    lit "/sys/devices/system/cpu/cpu" ++ rest ≠ lit "/proc/cpuinfo" := by
  intro heq
  have hsecond := congrArg (·[1]?) heq
  rw [List.getElem?_append_left (by decide)] at hsecond
  revert hsecond
  decide

theorem Unreported.coreOf_eq (hu : Unreported h.file files') (id : Nat) :
    coreOf { h with file := files' } id = coreOf h id := by
  have hread (name : StdString) := hu.boundedRead_eq _
    (topology_ne (lit (toString id) ++ (lit "/topology/" ++ name))) kSmallFileLimit
  simp only [coreOf, List.append_assoc, hread]

theorem Unreported.cpuInfoSection_eq (hu : Unreported h.file files') :
    cpuInfoSection { h with file := files' } = cpuInfoSection h := by
  have honline : onlineCpus { h with file := files' } = onlineCpus h := by
    simp only [onlineCpus, hu.boundedRead_eq
      (lit "/sys/devices/system/cpu/online") (by simp)]
  have hcores : physicalCores { h with file := files' } = physicalCores h := by
    funext online
    simp only [physicalCores, funext hu.coreOf_eq]
  simp only [cpuInfoSection, architecture, unameField, logicalCpuCount, physicalCoreCount,
    honline, hcores, hu.broadcomModel_eq,
    hu.cpuInfo_eq "vendor_id" (by simp [cpuInfoKeys]),
    hu.cpuInfo_eq "model name" (by simp [cpuInfoKeys])]

end Sections

/-- What the daemon says about the system does not depend on the other lines. -/
theorem Unreported.systemInfo_eq {h : Host} {files' : StdString → Option StdString}
    (hu : Unreported h.file files') : systemInfo { h with file := files' } = systemInfo h := by
  have hkernel : kernelSection { h with file := files' } = kernelSection h := rfl
  simp only [systemInfo, systemInfoRoot, hu.hostSection_eq, hu.osSection_eq, hkernel,
    hu.hardwareSection_eq, hu.cpuInfoSection_eq, hu.memoryInfo_eq]

end RpiDashboard.Daemon
