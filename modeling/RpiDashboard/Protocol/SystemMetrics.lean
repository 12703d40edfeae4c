import RpiDashboard.Qt.Value

/-! One measurement of a device (`protocol/system_metrics.h`). -/

namespace RpiDashboard.Protocol

open Numeric Qt

namespace SystemMetrics

structure LogicalCpu where
  name : QString
  usageRatio : Option Double := none
  frequencyHz : Option UInt64 := none
  deriving DecidableEq

structure Cpu where
  usageRatio : Option Double := none
  logicalCpus : List LogicalCpu := []
  temperatureCelsius : Option Double := none
  deriving DecidableEq

structure Memory where
  totalBytes : Option UInt64 := none
  availableBytes : Option UInt64 := none
  swapTotalBytes : Option UInt64 := none
  swapAvailableBytes : Option UInt64 := none
  deriving DecidableEq

structure System where
  uptimeSeconds : Option Double := none
  loadAverage1m : Option Double := none
  loadAverage5m : Option Double := none
  loadAverage15m : Option Double := none
  deriving DecidableEq

structure StorageVolume where
  mountPoint : QString
  deviceName : QString
  primary : Bool := false
  readOnly : Bool := false
  totalBytes : Option UInt64 := none
  availableBytes : Option UInt64 := none
  deriving DecidableEq

structure NetworkInterface where
  name : QString
  rxBytes : Option UInt64 := none
  txBytes : Option UInt64 := none
  rxBytesPerSecond : Option Double := none
  txBytesPerSecond : Option Double := none
  deriving DecidableEq

structure Gpu where
  name : QString
  usageRatio : Option Double := none
  memoryTotalBytes : Option UInt64 := none
  memoryUsedBytes : Option UInt64 := none
  coreClockHz : Option UInt64 := none
  memoryClockHz : Option UInt64 := none
  temperatureCelsius : Option Double := none
  deriving DecidableEq

end SystemMetrics

structure SystemMetrics where
  cpu : SystemMetrics.Cpu := {}
  memory : SystemMetrics.Memory := {}
  system : SystemMetrics.System := {}
  storageVolumes : List SystemMetrics.StorageVolume := []
  networkInterfaces : List SystemMetrics.NetworkInterface := []
  gpus : List SystemMetrics.Gpu := []
  deriving DecidableEq

namespace SystemMetrics

def finiteNonnegative (value : Option Double) : Bool :=
  value.any fun d => d.isFinite && !d.lt .zero

def ratio (value : Option Double) : Bool :=
  value.any fun d => d.isFinite && !d.lt .zero && !Double.one.lt d

def validBytes (total available : Option UInt64) : Bool :=
  match total, available with
  | some total, some available => 0 < total && available ≤ total
  | _, _ => false

def hasAnyValue (metrics : SystemMetrics) : Bool :=
  ratio metrics.cpu.usageRatio || finiteNonnegative metrics.cpu.temperatureCelsius ||
    !metrics.cpu.logicalCpus.isEmpty || metrics.memory.totalBytes.isSome ||
    metrics.memory.availableBytes.isSome || metrics.memory.swapTotalBytes.isSome ||
    metrics.memory.swapAvailableBytes.isSome || finiteNonnegative metrics.system.uptimeSeconds ||
    finiteNonnegative metrics.system.loadAverage1m ||
    finiteNonnegative metrics.system.loadAverage5m ||
    finiteNonnegative metrics.system.loadAverage15m || !metrics.storageVolumes.isEmpty ||
    !metrics.networkInterfaces.isEmpty || !metrics.gpus.isEmpty

def hasAllBaselineFields (metrics : SystemMetrics) : Bool :=
  ratio metrics.cpu.usageRatio && finiteNonnegative metrics.system.uptimeSeconds &&
    validBytes metrics.memory.totalBytes metrics.memory.availableBytes &&
    metrics.storageVolumes.any fun volume =>
      volume.primary && validBytes volume.totalBytes volume.availableBytes

end SystemMetrics

end RpiDashboard.Protocol
