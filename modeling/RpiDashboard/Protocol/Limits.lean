import Mathlib.Tactic.MkIffOfInductiveProp
import RpiDashboard.Protocol.DeviceSnapshot

/-! The documented limits of the wire format, as predicates on the decoded values.
They say what a valid message is without mentioning the codec, and they are decidable. -/

namespace RpiDashboard.Protocol

open Numeric Qt

/-- Only what an option holds is looked at, also where its type is finite. -/
instance decidableForallMem {α : Type} {value : Option α} {p : α → Prop} [DecidablePred p] :
    Decidable (∀ a ∈ value, p a) := Option.decidableForallMem value

/-- Non-empty text of at most `limit` UTF-8 bytes. -/
def TextWithin (limit : Nat) (s : QString) : Prop := s ≠ "" ∧ (toUtf8 s).length ≤ limit
  deriving Decidable

def OptionalText (value : Option QString) : Prop := ∀ s ∈ value, TextWithin 256 s
  deriving Decidable

/-- The nonnegative signed 64-bit range. -/
def InRange (n : UInt64) : Prop := n.toNat ≤ 2 ^ 63 - 1
  deriving Decidable

def OptionalInteger (value : Option UInt64) : Prop := ∀ n ∈ value, InRange n
  deriving Decidable

def OptionalNumber (value : Option Double) : Prop := ∀ d ∈ value, d.isFinite = true
  deriving Decidable

def OptionalRatio (value : Option Double) : Prop :=
  ∀ d ∈ value, d.isFinite = true ∧ 0 ≤ d.toRat ∧ d.toRat ≤ 1
  deriving Decidable

/-- `part ≤ whole` where both are present. -/
def AtMost (part whole : Option UInt64) : Prop := ∀ p ∈ part, ∀ w ∈ whole, p ≤ w
  deriving Decidable

/-- The names of a list: bounded in number, texts, and pairwise distinct. -/
@[mk_iff]
structure UniqueNames (limit : Nat) (names : List QString) : Prop where
  length_le : names.length ≤ limit
  nodup : names.Nodup
  texts : ∀ s ∈ names, TextWithin 256 s

instance (limit : Nat) (names : List QString) : Decidable (UniqueNames limit names) :=
  decidable_of_iff' _ (uniqueNames_iff limit names)

namespace SystemInfo

@[mk_iff]
structure OperatingSystem.Valid (os : OperatingSystem) : Prop where
  osFamily : OptionalText os.osFamily
  osId : OptionalText os.osId
  osVersion : OptionalText os.osVersion
  osPrettyName : OptionalText os.osPrettyName

instance (os : OperatingSystem) : Decidable (OperatingSystem.Valid os) :=
  decidable_of_iff' _ (OperatingSystem.valid_iff os)

@[mk_iff]
structure Kernel.Valid (kernel : Kernel) : Prop where
  kernelType : OptionalText kernel.kernelType
  kernelVersion : OptionalText kernel.kernelVersion

instance (kernel : Kernel) : Decidable (Kernel.Valid kernel) :=
  decidable_of_iff' _ (Kernel.valid_iff kernel)

@[mk_iff]
structure Hardware.Valid (hardware : Hardware) : Prop where
  manufacturer : OptionalText hardware.manufacturer
  model : OptionalText hardware.model
  boardRevision : OptionalText hardware.boardRevision
  compatibleIds : ∀ ids ∈ hardware.compatibleIds, UniqueNames 32 ids

instance (hardware : Hardware) : Decidable (Hardware.Valid hardware) :=
  decidable_of_iff' _ (Hardware.valid_iff hardware)

@[mk_iff]
structure Cpu.Valid (cpu : Cpu) : Prop where
  architecture : OptionalText cpu.architecture
  vendor : OptionalText cpu.vendor
  model : OptionalText cpu.model
  logicalCpuCount : ∀ n ∈ cpu.logicalCpuCount, n.toNat ≤ 256

instance (cpu : Cpu) : Decidable (Cpu.Valid cpu) :=
  decidable_of_iff' _ (Cpu.valid_iff cpu)

@[mk_iff]
structure Valid (info : SystemInfo) : Prop where
  hostName : OptionalText info.host.hostName
  os : info.os.Valid
  kernel : info.kernel.Valid
  hardware : info.hardware.Valid
  cpu : info.cpu.Valid
  totalBytes : OptionalInteger info.memory.totalBytes
  hasAnyValue : info.hasAnyValue = true

instance (info : SystemInfo) : Decidable (Valid info) :=
  decidable_of_iff' _ (valid_iff info)

end SystemInfo

namespace SystemMetrics

@[mk_iff]
structure LogicalCpu.Valid (entry : LogicalCpu) : Prop where
  usageRatio : OptionalRatio entry.usageRatio
  frequencyHz : OptionalInteger entry.frequencyHz

instance (entry : LogicalCpu) : Decidable (LogicalCpu.Valid entry) :=
  decidable_of_iff' _ (LogicalCpu.valid_iff entry)

@[mk_iff]
structure Cpu.Valid (cpu : Cpu) : Prop where
  usageRatio : OptionalRatio cpu.usageRatio
  temperatureCelsius : OptionalNumber cpu.temperatureCelsius
  names : UniqueNames 256 (cpu.logicalCpus.map LogicalCpu.name)
  logicalCpus : ∀ entry ∈ cpu.logicalCpus, entry.Valid

instance (cpu : Cpu) : Decidable (Cpu.Valid cpu) :=
  decidable_of_iff' _ (Cpu.valid_iff cpu)

@[mk_iff]
structure Memory.Valid (memory : Memory) : Prop where
  totalBytes : OptionalInteger memory.totalBytes
  availableBytes : OptionalInteger memory.availableBytes
  swapTotalBytes : OptionalInteger memory.swapTotalBytes
  swapAvailableBytes : OptionalInteger memory.swapAvailableBytes
  available_le : AtMost memory.availableBytes memory.totalBytes
  swapAvailable_le : AtMost memory.swapAvailableBytes memory.swapTotalBytes

instance (memory : Memory) : Decidable (Memory.Valid memory) :=
  decidable_of_iff' _ (Memory.valid_iff memory)

@[mk_iff]
structure System.Valid (system : System) : Prop where
  uptimeSeconds : OptionalNumber system.uptimeSeconds
  loadAverage1m : OptionalNumber system.loadAverage1m
  loadAverage5m : OptionalNumber system.loadAverage5m
  loadAverage15m : OptionalNumber system.loadAverage15m

instance (system : System) : Decidable (System.Valid system) :=
  decidable_of_iff' _ (System.valid_iff system)

@[mk_iff]
structure StorageVolume.Valid (entry : StorageVolume) : Prop where
  deviceName : TextWithin 256 entry.deviceName
  totalBytes : OptionalInteger entry.totalBytes
  availableBytes : OptionalInteger entry.availableBytes
  available_le : AtMost entry.availableBytes entry.totalBytes

instance (entry : StorageVolume) : Decidable (StorageVolume.Valid entry) :=
  decidable_of_iff' _ (StorageVolume.valid_iff entry)

@[mk_iff]
structure NetworkInterface.Valid (entry : NetworkInterface) : Prop where
  rxBytes : OptionalInteger entry.rxBytes
  txBytes : OptionalInteger entry.txBytes
  rxBytesPerSecond : OptionalNumber entry.rxBytesPerSecond
  txBytesPerSecond : OptionalNumber entry.txBytesPerSecond

instance (entry : NetworkInterface) : Decidable (NetworkInterface.Valid entry) :=
  decidable_of_iff' _ (NetworkInterface.valid_iff entry)

@[mk_iff]
structure Gpu.Valid (entry : Gpu) : Prop where
  usageRatio : OptionalRatio entry.usageRatio
  memoryTotalBytes : OptionalInteger entry.memoryTotalBytes
  memoryUsedBytes : OptionalInteger entry.memoryUsedBytes
  coreClockHz : OptionalInteger entry.coreClockHz
  memoryClockHz : OptionalInteger entry.memoryClockHz
  temperatureCelsius : OptionalNumber entry.temperatureCelsius
  used_le : AtMost entry.memoryUsedBytes entry.memoryTotalBytes

instance (entry : Gpu) : Decidable (Gpu.Valid entry) :=
  decidable_of_iff' _ (Gpu.valid_iff entry)

@[mk_iff]
structure Valid (metrics : SystemMetrics) : Prop where
  cpu : metrics.cpu.Valid
  memory : metrics.memory.Valid
  system : metrics.system.Valid
  volumeNames : UniqueNames 64 (metrics.storageVolumes.map StorageVolume.mountPoint)
  storageVolumes : ∀ entry ∈ metrics.storageVolumes, entry.Valid
  interfaceNames : UniqueNames 64 (metrics.networkInterfaces.map NetworkInterface.name)
  networkInterfaces : ∀ entry ∈ metrics.networkInterfaces, entry.Valid
  gpuNames : UniqueNames 16 (metrics.gpus.map Gpu.name)
  gpus : ∀ entry ∈ metrics.gpus, entry.Valid

instance (metrics : SystemMetrics) : Decidable (Valid metrics) :=
  decidable_of_iff' _ (valid_iff metrics)

end SystemMetrics

def IntervalWithin (interval : Int) : Prop := 1 ≤ interval ∧ interval ≤ 5
  deriving Decidable

@[mk_iff]
structure Hello.Valid (hello : Hello) : Prop where
  deviceId : hello.deviceId ≠ .null
  instanceId : hello.instanceId ≠ .null
  displayName : TextWithin 128 hello.displayName
  interval : IntervalWithin hello.intervalSeconds
  systemInfo : hello.systemInfo.Valid

instance (hello : Hello) : Decidable (Hello.Valid hello) :=
  decidable_of_iff' _ (Hello.valid_iff hello)

@[mk_iff]
structure RegistrationResult.Valid (result : RegistrationResult) : Prop where
  deviceId : result.deviceId ≠ .null
  instanceId : result.instanceId ≠ .null
  reason : (toUtf8 result.reason).length ≤ 64

instance (result : RegistrationResult) : Decidable (RegistrationResult.Valid result) :=
  decidable_of_iff' _ (RegistrationResult.valid_iff result)

@[mk_iff]
structure DeviceSnapshot.Valid (snapshot : DeviceSnapshot) : Prop where
  deviceId : snapshot.deviceId ≠ .null
  instanceId : snapshot.instanceId ≠ .null
  interval : IntervalWithin snapshot.intervalSeconds
  sequence : InRange snapshot.sequence
  systemInfo : snapshot.systemInfo.Valid
  metrics : ∀ metrics ∈ snapshot.metrics, metrics.Valid

instance (snapshot : DeviceSnapshot) : Decidable (DeviceSnapshot.Valid snapshot) :=
  decidable_of_iff' _ (DeviceSnapshot.valid_iff snapshot)

def TelemetryMessage.Valid : TelemetryMessage → Prop
  | .hello value => value.Valid
  | .registrationResult value => value.Valid
  | .snapshot value => value.Valid

instance : (message : TelemetryMessage) → Decidable message.Valid
  | .hello value => inferInstanceAs (Decidable value.Valid)
  | .registrationResult value => inferInstanceAs (Decidable value.Valid)
  | .snapshot value => inferInstanceAs (Decidable value.Valid)

end RpiDashboard.Protocol
