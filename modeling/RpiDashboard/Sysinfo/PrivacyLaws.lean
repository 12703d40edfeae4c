import RpiDashboard.Daemon.PrivacyLaws
import RpiDashboard.Sysinfo.LinuxSysInfoCollector

/-! What neither collector reports of `/proc/cpuinfo`. -/

namespace RpiDashboard.Sysinfo

open Qt Protocol

/-- The keys of the lines that are reported. -/
def cpuInfoKeys : List QByteArray := ["vendor_id", "model name", "Revision"].map bytesOf

def reportable (contents : QByteArray) : List QByteArray :=
  (QByteArray.split contents 0x0a).filter fun line =>
    (line.idxOf? 0x3a).any fun separator => QByteArray.trimmed (line.take separator) ∈ cpuInfoKeys

/-- Files that differ in other lines of `/proc/cpuinfo` at most, which is not too long. -/
structure Unreported (files files' : QString → Option QByteArray) : Prop
    extends AgreeBut reportable "/proc/cpuinfo" files files' where
  within : ∀ contents ∈ files "/proc/cpuinfo", contents.length ≤ kCpuInfoLimit
  within' : ∀ contents ∈ files' "/proc/cpuinfo", contents.length ≤ kCpuInfoLimit

theorem afterKey_eq {key : QByteArray} (hkey : key ∈ cpuInfoKeys) {contents contents' : QByteArray}
    (h : reportable contents = reportable contents') :
    (QByteArray.split contents 0x0a).findSome? (afterKey key) =
      (QByteArray.split contents' 0x0a).findSome? (afterKey key) := by
  refine findSome?_eq_of_filter_eq (fun line htaken => ?_) h
  unfold afterKey at htaken
  cases hcolon : line.idxOf? 0x3a with
  | none =>
    rw [hcolon] at htaken
    cases htaken
  | some separator =>
    rw [hcolon, Option.bind_some] at htaken
    split at htaken
    case isTrue hname => exact decide_eq_true (hname ▸ hkey)
    case isFalse => cases htaken

section Collect

variable {qt : QtUnicode} {values : LinuxPlatformValues} {files files' : QString → Option QByteArray}

theorem Unreported.readFile_eq (hu : Unreported files files') (path : QString)
    (hp : path ≠ "/proc/cpuinfo") (limit : Nat) :
    (nativeLinuxPlatformAccess values files').readFile path limit =
      (nativeLinuxPlatformAccess values files).readFile path limit :=
  congrArg (Option.filter _) (hu.elsewhere path hp)

theorem Unreported.cpuInfo_eq {α : Type} (hu : Unreported files files')
    {read : QByteArray → Option α} (hread : ∀ contents contents',
      reportable contents = reportable contents' → read contents = read contents') :
    (cpuInfo (nativeLinuxPlatformAccess values files')).bind read =
      (cpuInfo (nativeLinuxPlatformAccess values files)).bind read :=
  hu.bounded_eq (fun contents hc => decide_eq_true (hu.within contents hc))
    (fun contents hc => decide_eq_true (hu.within' contents hc)) hread

theorem Unreported.cpuInfoValue_eq (hu : Unreported files files') (key : QByteArray)
    (hkey : key ∈ cpuInfoKeys) :
    ((cpuInfo (nativeLinuxPlatformAccess values files')).bind fun contents =>
        cpuInfoValue qt contents key) =
      (cpuInfo (nativeLinuxPlatformAccess values files)).bind fun contents =>
        cpuInfoValue qt contents key :=
  hu.cpuInfo_eq fun _ _ hview => congrArg (Option.bind · _) (afterKey_eq hkey hview)

theorem Unreported.boardRevision_eq (hu : Unreported files files') :
    (cpuInfo (nativeLinuxPlatformAccess values files')).bind (boardRevision qt) =
      (cpuInfo (nativeLinuxPlatformAccess values files)).bind (boardRevision qt) :=
  hu.cpuInfo_eq fun _ _ hview => congrArg (Option.bind · _) (afterKey_eq (by decide) hview)

/-- No file below `/sys` is `/proc/cpuinfo`. -/
theorem topology_ne (rest : QString) : "/sys/devices/system/cpu/cpu" ++ rest ≠ "/proc/cpuinfo" := by
  intro heq
  have hstart := congrArg (fun path => path.toList.take 2) heq
  simp at hstart

theorem Unreported.coreOf_eq (hu : Unreported files files') (cpuId : Nat) :
    coreOf qt (nativeLinuxPlatformAccess values files') cpuId =
      coreOf qt (nativeLinuxPlatformAccess values files) cpuId := by
  have hread (name : QString) :
      (nativeLinuxPlatformAccess values files').readFile
          ("/sys/devices/system/cpu/cpu" ++ (toString cpuId ++ ("/topology/" ++ name)))
          kSmallFileLimit =
        (nativeLinuxPlatformAccess values files).readFile
          ("/sys/devices/system/cpu/cpu" ++ (toString cpuId ++ ("/topology/" ++ name)))
          kSmallFileLimit :=
    hu.readFile_eq _ (topology_ne _) kSmallFileLimit
  simp only [coreOf, String.append_assoc, hread]

theorem Unreported.physicalCoreCount_eq (hu : Unreported files files') :
    physicalCoreCount qt (nativeLinuxPlatformAccess values files') =
      physicalCoreCount qt (nativeLinuxPlatformAccess values files) := by
  simp only [physicalCoreCount, hu.readFile_eq "/sys/devices/system/cpu/online" (by decide),
    funext hu.coreOf_eq]

theorem Unreported.compatible_eq (hu : Unreported files files') :
    compatible qt (nativeLinuxPlatformAccess values files') =
      compatible qt (nativeLinuxPlatformAccess values files) := by
  simp only [compatible,
    hu.readFile_eq "/sys/firmware/devicetree/base/compatible" (by decide)]

theorem Unreported.genericInfo_eq (hu : Unreported files files') :
    genericInfo qt (nativeLinuxPlatformAccess values files') =
      genericInfo qt (nativeLinuxPlatformAccess values files) := by
  have hvalues : (nativeLinuxPlatformAccess values files').values =
      (nativeLinuxPlatformAccess values files).values := rfl
  simp only [genericInfo, hvalues, hu.physicalCoreCount_eq,
    hu.readFile_eq "/sys/class/dmi/id/sys_vendor" (by decide),
    hu.readFile_eq "/sys/class/dmi/id/product_name" (by decide),
    hu.readFile_eq "/proc/meminfo" (by decide),
    hu.cpuInfoValue_eq (bytesOf "vendor_id") (by decide),
    hu.cpuInfoValue_eq (bytesOf "model name") (by decide)]

theorem Unreported.collect_eq (hu : Unreported files files') :
    collect qt (nativeLinuxPlatformAccess values files') =
      collect qt (nativeLinuxPlatformAccess values files) := by
  have hpi : isPi qt (nativeLinuxPlatformAccess values files') =
      isPi qt (nativeLinuxPlatformAccess values files) := by
    simp only [isPi, hu.compatible_eq]
  have hhardware (hardware : SystemInfo.Hardware) :
      piHardware qt (nativeLinuxPlatformAccess values files') hardware =
        piHardware qt (nativeLinuxPlatformAccess values files) hardware := by
    simp only [piHardware, hu.compatible_eq, hu.boardRevision_eq,
      hu.readFile_eq "/sys/firmware/devicetree/base/model" (by decide)]
  have hbroadcom (cpu : SystemInfo.Cpu) :
      broadcom qt (nativeLinuxPlatformAccess values files') cpu =
        broadcom qt (nativeLinuxPlatformAccess values files) cpu := by
    simp only [broadcom, hu.compatible_eq]
  simp only [collect, hpi, hu.genericInfo_eq, hhardware, hbroadcom]

end Collect

/-- Lines of `/proc/cpuinfo` with other keys, a serial among them, reach neither collector. -/
theorem no_serial_leak (qt : QtUnicode) (values : LinuxPlatformValues)
    {files files' : QString → Option QByteArray} (hdashboard : Unreported files files')
    {h : Daemon.Host} {hostFiles' : Daemon.StdString → Option Daemon.StdString}
    (hdaemon : Daemon.Unreported h.file hostFiles') :
    Daemon.systemInfo { h with file := hostFiles' } = Daemon.systemInfo h ∧
      collect qt (nativeLinuxPlatformAccess values files') =
        collect qt (nativeLinuxPlatformAccess values files) :=
  ⟨hdaemon.systemInfo_eq, hdashboard.collect_eq⟩

section Sample

def sampleUnicode : QtUnicode where
  fromUtf8 bytes := (fromUtf8? bytes).getD ""
  toLower := String.toLower
  toUpper := String.toUpper
  sameLetters a b := a.toLower = b.toLower
  toULongLong _ := none

/-- A system without a device tree. -/
def sampleFiles (cpuinfo : QByteArray) (path : QString) : Option QByteArray :=
  if path = "/proc/cpuinfo" then some cpuinfo else none

def sampleHost (cpuinfo : QByteArray) : Daemon.Host where
  file path := if path = Daemon.lit "/proc/cpuinfo" then some cpuinfo else none

def firstBoard : QByteArray :=
  bytesOf "vendor_id\t: GenuineIntel\nserial\t: 7\nmodel name\t: Example\n"

def secondBoard : QByteArray :=
  bytesOf "serial\t: 8\nvendor_id\t: GenuineIntel\nmodel name\t: Example\nbogomips"

theorem no_serial_leak_sample :
    Daemon.systemInfo (sampleHost secondBoard) = Daemon.systemInfo (sampleHost firstBoard) ∧
      collect sampleUnicode
          (nativeLinuxPlatformAccess { architecture := "x86_64" } (sampleFiles secondBoard)) =
        collect sampleUnicode
          (nativeLinuxPlatformAccess { architecture := "x86_64" } (sampleFiles firstBoard)) := by
  have hview : reportable secondBoard = reportable firstBoard ∧
      Daemon.reportable secondBoard = Daemon.reportable firstBoard ∧
      firstBoard.length ≤ kCpuInfoLimit ∧ secondBoard.length ≤ kCpuInfoLimit := by
    decide +kernel
  obtain ⟨hqt, hstd, hfirst, hsecond⟩ := hview
  have hdashboard : Unreported (sampleFiles firstBoard) (sampleFiles secondBoard) :=
    ⟨⟨fun _ hne => (if_neg hne).trans (if_neg hne).symm, congrArg some hqt⟩,
      fun _ hc => Option.some.inj hc ▸ hfirst, fun _ hc => Option.some.inj hc ▸ hsecond⟩
  have hdaemon : Daemon.Unreported (sampleHost firstBoard).file (sampleHost secondBoard).file :=
    ⟨⟨fun _ hne => (if_neg hne).trans (if_neg hne).symm, (congrArg some hstd : some _ = some _)⟩,
      fun _ hc => Option.some.inj hc ▸ hfirst, fun _ hc => Option.some.inj hc ▸ hsecond⟩
  exact no_serial_leak sampleUnicode { architecture := "x86_64" } hdashboard hdaemon

example : Daemon.cpuInfo (sampleHost secondBoard) "vendor_id" =
    some (Daemon.lit "GenuineIntel") := by
  decide +kernel

end Sample

end RpiDashboard.Sysinfo
