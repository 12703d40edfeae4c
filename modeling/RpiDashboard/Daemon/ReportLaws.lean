import RpiDashboard.Daemon.MetricsLaws

/-! What a measurement reports, section by section. -/

namespace RpiDashboard.Daemon

open Numeric

/-- The root of a measurement; empty if there is none. -/
def reported (value : Option Value) : StdMap := (value.bind Value.map?).getD []

variable {sort : MountSort} {h : Host} {now : Int64} {c : Collector} {networks : List Value}
  {root : StdMap} {key : String}

theorem reported_metrics : reported (metrics sort h now c).2 =
    metricsRoot sort h c (networksOf h now c) := by
  rw [snd_metrics, reported]
  split
  case isTrue hempty => simpa using hempty.symm
  case isFalse => rfl

theorem mapAt_addObject (sub : StdMap) (hfresh : root.find (lit key) = none) :
    mapAt (addObject root key sub) key = sub := by
  cases sub with
  | nil => simp [mapAt, addObject, hfresh]
  | cons e sub => rw [mapAt, find_addObject_self (by simp)]; rfl

theorem mapsAt_addArray (items : List StdMap) (hfresh : root.find (lit key) = none) :
    mapsAt (addArray root key (items.map .map)) key = items := by
  cases items with
  | nil => simp [mapsAt, arrayAt, addArray, hfresh]
  | cons item items =>
    rw [mapsAt, arrayAt, find_addArray_self (by simp)]
    simp [Value.array?, Value.map?, List.filterMap_map, Function.comp_def]

theorem mapAt_cpu : mapAt (metricsRoot sort h c networks) "cpu" =
    cpuSection h c.previousCpu ((h.boundedRead (lit "/proc/stat") kProcLimit).getD []) := by
  have hfresh : (addArray (addArray (addArray [] "network_interfaces" networks) "storage_volumes"
      ((storageVolumes sort h).map .map)) "gpus" ((gpus c h).map .map)).find (lit "cpu") = none := by
    rw [find_addArray (by decide), find_addArray (by decide), find_addArray (by decide)]
    rfl
  have hcpu := mapAt_addObject (cpuSection h c.previousCpu
    ((h.boundedRead (lit "/proc/stat") kProcLimit).getD [])) hfresh
  rw [← hcpu, metricsRoot, mapAt, mapAt, find_addObject (by decide), find_addObject (by decide)]

theorem mapsAt_volumes :
    mapsAt (metricsRoot sort h c networks) "storage_volumes" = storageVolumes sort h := by
  have hfresh : (addArray [] "network_interfaces" networks).find (lit "storage_volumes") = none := by
    rw [find_addArray (by decide)]
    rfl
  have hvolumes := mapsAt_addArray (storageVolumes sort h) hfresh
  rw [← hvolumes, metricsRoot, mapsAt, mapsAt, arrayAt, arrayAt, find_addObject (by decide),
    find_addObject (by decide), find_addObject (by decide), find_addArray (by decide)]

theorem mapsAt_networks {items : List StdMap} :
    mapsAt (metricsRoot sort h c (items.map .map)) "network_interfaces" = items := by
  have hfresh : StdMap.find [] (lit "network_interfaces") = none := rfl
  have hitems := mapsAt_addArray items hfresh
  conv_rhs => rw [← hitems]
  rw [metricsRoot, mapsAt, mapsAt, arrayAt, arrayAt, find_addObject (by decide),
    find_addObject (by decide), find_addObject (by decide), find_addArray (by decide),
    find_addArray (by decide)]

theorem numberAt_usage {previous : Option (UInt64 × UInt64)} {stat : StdString} :
    numberAt (cpuSection h previous stat) "usage_ratio" = cpuUsage previous (cpuTimes stat) := by
  rw [numberAt, cpuSection]
  simp only [find_assignSome]
  cases cpuUsage previous (cpuTimes stat) <;> rfl

end RpiDashboard.Daemon
