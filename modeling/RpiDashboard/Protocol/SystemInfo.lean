import RpiDashboard.Qt.Value

/-! What a device says about itself (`protocol/system_info.h`).  Every field is optional. -/

namespace RpiDashboard.Protocol

open Qt

namespace SystemInfo

structure Host where
  hostName : Option QString := none
  deriving DecidableEq

structure OperatingSystem where
  osFamily : Option QString := none
  osId : Option QString := none
  osVersion : Option QString := none
  osPrettyName : Option QString := none
  deriving DecidableEq

structure Kernel where
  kernelType : Option QString := none
  kernelVersion : Option QString := none
  deriving DecidableEq

structure Hardware where
  manufacturer : Option QString := none
  model : Option QString := none
  boardRevision : Option QString := none
  compatibleIds : Option (List QString) := none
  deriving DecidableEq

structure Cpu where
  architecture : Option QString := none
  vendor : Option QString := none
  model : Option QString := none
  logicalCpuCount : Option UInt32 := none
  physicalCoreCount : Option UInt32 := none
  deriving DecidableEq

structure Memory where
  totalBytes : Option UInt64 := none
  deriving DecidableEq

end SystemInfo

structure SystemInfo where
  host : SystemInfo.Host := {}
  os : SystemInfo.OperatingSystem := {}
  kernel : SystemInfo.Kernel := {}
  hardware : SystemInfo.Hardware := {}
  cpu : SystemInfo.Cpu := {}
  memory : SystemInfo.Memory := {}
  deriving DecidableEq

def SystemInfo.hasAnyValue (info : SystemInfo) : Bool :=
  info.host.hostName.isSome || info.os.osFamily.isSome || info.os.osId.isSome ||
    info.os.osVersion.isSome || info.os.osPrettyName.isSome || info.kernel.kernelType.isSome ||
    info.kernel.kernelVersion.isSome || info.hardware.manufacturer.isSome ||
    info.hardware.model.isSome || info.hardware.boardRevision.isSome ||
    info.hardware.compatibleIds.isSome || info.cpu.architecture.isSome || info.cpu.vendor.isSome ||
    info.cpu.model.isSome || info.cpu.logicalCpuCount.isSome || info.cpu.physicalCoreCount.isSome ||
    info.memory.totalBytes.isSome

def SystemInfo.hasAllBaselineFields (info : SystemInfo) : Bool :=
  info.host.hostName.isSome && info.os.osFamily.isSome && info.kernel.kernelType.isSome &&
    info.kernel.kernelVersion.isSome && info.cpu.architecture.isSome &&
    info.cpu.logicalCpuCount.isSome && info.memory.totalBytes.isSome

end RpiDashboard.Protocol
