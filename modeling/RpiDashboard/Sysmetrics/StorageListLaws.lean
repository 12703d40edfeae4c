import RpiDashboard.Daemon.ReportLaws
import RpiDashboard.Qt.TextLaws
import RpiDashboard.Sysmetrics.LinuxSysMetricsCollector

/-! The list of volumes, as the daemon and as the collector of the dashboard build it. -/

namespace RpiDashboard.Sysmetrics

open Daemon Protocol Qt

section Canonical

/-- What both programs list of a volume. -/
structure Volume (κ : Type) where
  mountPoint : κ
  device : κ
  primary : Bool
  total : UInt64
  available : UInt64

variable {κ : Type} (root : κ) (lt : κ → κ → Prop) (backed eligible : κ → Prop)

/-- The order of mount points: the root first. -/
def Before (p q : κ) : Prop := q ≠ root ∧ (p = root ∨ lt p q)

/-- A canonical list of the eligible mount points. -/
structure Canonical (volumes : List (Volume κ)) : Prop where
  length_le : volumes.length ≤ 64
  distinct : (volumes.map Volume.mountPoint).Nodup
  ordered : (volumes.map Volume.mountPoint).Pairwise (Before root lt)
  primary : ∀ volume ∈ volumes, volume.primary = true ↔ volume.mountPoint = root
  capacity : ∀ volume ∈ volumes, 0 < volume.total ∧ volume.available ≤ volume.total
  backed : ∀ volume ∈ volumes, volume.mountPoint = root ∨ backed volume.device
  complete : ∀ p, eligible p → p ∉ volumes.map Volume.mountPoint →
    volumes.length = 64 ∧ ∀ volume ∈ volumes, Before root lt volume.mountPoint p

/-- A volume that may be listed. -/
structure Volume.Sound (volume : Volume κ) : Prop where
  primary : volume.primary = true ↔ volume.mountPoint = root
  capacity : 0 < volume.total ∧ volume.available ≤ volume.total
  backed : volume.mountPoint = root ∨ backed volume.device

variable {root lt backed eligible}

theorem before_connected (hlt : ∀ p q : κ, p ≠ q → lt p q ∨ lt q p) (p q : κ) (hne : p ≠ q) :
    Before root lt p q ∨ Before root lt q p := by
  by_cases hp : p = root
  case pos => exact .inl ⟨fun hq => hne (hp.trans hq.symm), .inl hp⟩
  case neg =>
    by_cases hq : q = root
    case pos => exact .inr ⟨hp, .inl hq⟩
    case neg => exact (hlt p q hne).imp (fun h => ⟨hq, .inr h⟩) fun h => ⟨hp, .inr h⟩

/-- The first volumes of the list of all eligible ones in order. -/
theorem canonical_take {volumes : List (Volume κ)}
    (hdistinct : (volumes.map Volume.mountPoint).Nodup)
    (hordered : (volumes.map Volume.mountPoint).Pairwise (Before root lt))
    (hsound : ∀ volume ∈ volumes, volume.Sound root backed)
    (heligible : ∀ p, eligible p → p ∈ volumes.map Volume.mountPoint) :
    Canonical root lt backed eligible (volumes.take 64) where
  length_le := List.length_take_le _ _
  distinct := hdistinct.sublist ((List.take_sublist _ _).map _)
  ordered := hordered.sublist ((List.take_sublist _ _).map _)
  primary volume hv := (hsound volume (List.mem_of_mem_take hv)).primary
  capacity volume hv := (hsound volume (List.mem_of_mem_take hv)).capacity
  backed volume hv := (hsound volume (List.mem_of_mem_take hv)).backed
  complete p hp hlate := by
    rw [List.map_take] at hlate
    obtain ⟨hlength, hbefore⟩ := of_notMem_take hordered (heligible p hp) hlate
    rw [← List.map_take] at hlength hbefore
    exact ⟨by simpa using hlength, fun volume hv => hbefore _ (List.mem_map_of_mem hv)⟩

end Canonical

section Daemon

/-- The entry of a volume in what the daemon reports. -/
structure Reported (volume : Volume StdString) (entry : StdMap) : Prop where
  mountPoint : entry.find (lit "mount_point") = some (.text volume.mountPoint)
  device : entry.find (lit "device_name") = some (.text volume.device)
  primary : entry.find (lit "primary") = some (.boolean volume.primary)
  total : entry.find (lit "total_bytes") = some (.unsigned volume.total)
  available : entry.find (lit "available_bytes") = some (.unsigned volume.available)

/-- A mount point of a line that is kept, with a capacity. -/
def EligibleMount (h : Host) (p : StdString) : Prop :=
  ∃ mount ∈ mounts h, mount.mountPoint = p ∧ (capacity h p).isSome

variable {sort : MountSort} {h : Host} {mount : Mount}

def mountVolume (h : Host) (mount : Mount) : Volume StdString where
  mountPoint := mount.mountPoint
  device := mount.device
  primary := mount.mountPoint = lit "/"
  total := ((capacity h mount.mountPoint).getD (0, 0)).1
  available := ((capacity h mount.mountPoint).getD (0, 0)).2

theorem reported_volumeOf : Reported (mountVolume h mount) (volumeOf h mount) := by
  constructor <;> simp [volumeOf, storageVolume, mountVolume]

theorem mountBefore_iff {left right : Mount} : mountBefore left right = true ↔
    Before (lit "/") (· < ·) left.mountPoint right.mountPoint := by
  unfold mountBefore Before
  by_cases hl : left.mountPoint = lit "/" <;> by_cases hr : right.mountPoint = lit "/" <;>
    simp [hl, hr]

theorem bytes_connected (p q : StdString) (hne : p ≠ q) : p < q ∨ q < p := by
  by_contra hnot
  obtain ⟨hp, hq⟩ := not_or.mp hnot
  exact hne (List.le_antisymm (List.not_lt.mp hq) (List.not_lt.mp hp))

theorem backed_of_mountOf {line : StdString} (hm : mountOf line = some mount) :
    mount.mountPoint = lit "/" ∨ lit "/dev/" <+: mount.device := by
  simp only [mountOf] at hm
  split at hm
  case isTrue => cases hm
  case isFalse =>
    split at hm
    case isTrue => cases hm
    case isFalse hnot =>
      cases hm
      simp only [not_or, not_and, Bool.not_eq_true', Bool.not_eq_false] at hnot
      by_contra hback
      obtain ⟨hroot, hdevice⟩ := not_or.mp hback
      exact hdevice (List.isPrefixOf_iff_prefix.mp (hnot.2.2.2.2.2.2 hroot))

theorem sound_mountVolume (hm : mount ∈ mounts h) (hc : (capacity h mount.mountPoint).isSome) :
    (mountVolume h mount).Sound (lit "/") (lit "/dev/" <+: ·) ∧
      (mountVolume h mount).total ≤ kWireMaximum := by
  obtain ⟨line, -, hline⟩ := List.mem_filterMap.mp hm
  obtain ⟨⟨total, available⟩, hc⟩ := Option.isSome_iff_exists.mp hc
  obtain ⟨hpos, htotal, hle⟩ := capacity_sound hc
  refine ⟨⟨decide_eq_true_iff, ?_, backed_of_mountOf hline⟩, ?_⟩
  · rw [mountVolume, hc]
    exact ⟨UInt64.pos_iff_ne_zero.mpr hpos, hle⟩
  · rw [mountVolume, hc]
    exact htotal

/-- All mounts that could be reported, in order. -/
def candidates (sort : MountSort) (h : Host) : List Mount :=
  (firstMounts [] (sort.apply (mounts h))).filter fun mount => (capacity h mount.mountPoint).isSome

theorem candidates_ordered :
    ((candidates sort h).map Mount.mountPoint).Pairwise (Before (lit "/") (· < ·)) := by
  have hsorted : (sort.apply (mounts h)).Pairwise fun left right =>
      ¬ Before (lit "/") (· < ·) right.mountPoint left.mountPoint :=
    (sort.sorted _).imp fun hle hbefore => by
      rw [mountBefore_iff.mpr hbefore] at hle
      cases hle
  have hfirsts : ((firstOfEach Mount.mountPoint [] (sort.apply (mounts h))).map
      Mount.mountPoint).Pairwise (Before (lit "/") (· < ·)) :=
    pairwise_firstOfEach hsorted (before_connected bytes_connected)
  rw [← firstMounts_eq] at hfirsts
  exact hfirsts.sublist (List.filter_sublist.map _)

theorem candidates_complete {p : StdString} (hp : EligibleMount h p) :
    p ∈ (candidates sort h).map Mount.mountPoint := by
  obtain ⟨mount, hmount, rfl, hc⟩ := hp
  have hmem : mount ∈ sort.apply (mounts h) := (sort.perm _).mem_iff.mpr hmount
  have hfirsts : mount.mountPoint ∈
      (firstOfEach Mount.mountPoint [] (sort.apply (mounts h))).map Mount.mountPoint :=
    exists_firstOfEach hmem List.not_mem_nil
  rw [← firstMounts_eq] at hfirsts
  obtain ⟨first, hfirst, heq⟩ := List.mem_map.mp hfirsts
  rw [← heq] at hc ⊢
  exact List.mem_map_of_mem (List.mem_filter.mpr ⟨hfirst, hc⟩)

/-- The list of a measurement is canonical, with totals that fit the wire. -/
theorem daemon_canonical (sort : MountSort) (h : Host) (now : Int64) (c : Daemon.Collector) :
    ∃ volumes, List.Forall₂ Reported volumes
        (mapsAt (reported (metrics sort h now c).2) "storage_volumes") ∧
      Canonical (lit "/") (· < ·) (lit "/dev/" <+: ·) (EligibleMount h) volumes ∧
      ∀ volume ∈ volumes, volume.total ≤ 0x7fffffffffffffff := by
  have hmem : ∀ mount ∈ candidates sort h, mount ∈ mounts h ∧
      (capacity h mount.mountPoint).isSome := by
    intro mount hm
    obtain ⟨hfirst, hc⟩ := List.mem_filter.mp hm
    exact ⟨(sort.perm _).mem_iff.mp (mem_firstMounts hfirst).1, hc⟩
  have hsound : ∀ volume ∈ (candidates sort h).map (mountVolume h),
      volume.Sound (lit "/") (lit "/dev/" <+: ·) ∧ volume.total ≤ kWireMaximum :=
    List.forall_mem_map.mpr fun mount hm => sound_mountVolume (hmem mount hm).1 (hmem mount hm).2
  have hpoints : ((candidates sort h).map (mountVolume h)).map Volume.mountPoint =
      (candidates sort h).map Mount.mountPoint := by
    rw [List.map_map]
    rfl
  refine ⟨((candidates sort h).map (mountVolume h)).take 64, ?_, ?_, ?_⟩
  · rw [reported_metrics, mapsAt_volumes, storageVolumes_eq, ← List.map_take, List.forall₂_map_left_iff,
      List.forall₂_map_right_iff]
    exact List.forall₂_same.mpr fun _ _ => reported_volumeOf
  · refine canonical_take ?_ ?_ (fun volume hv => (hsound volume hv).1) fun p hp => ?_
    · rw [hpoints]
      exact (nodup_firstMounts _ _).sublist (List.filter_sublist.map _)
    · rw [hpoints]
      exact candidates_ordered
    · rw [hpoints]
      exact candidates_complete hp
  · exact fun volume hv => (hsound volume (List.mem_of_mem_take hv)).2

end Daemon

section Collector

/-- A volume as the collector lists it. -/
structure Listed (volume : Volume QString) (entry : SystemMetrics.StorageVolume) : Prop where
  mountPoint : entry.mountPoint = volume.mountPoint
  device : entry.deviceName = volume.device
  primary : entry.primary = volume.primary
  total : entry.totalBytes = some volume.total
  available : entry.availableBytes = some volume.available

/-- The mount point of a volume that can be listed, among others of it that may not be. -/
def EligibleVolume (access : LinuxSysMetricsAccess) (p : QString) : Prop :=
  ∃ source ∈ access.storageVolumes, source.mountPoint = p ∧ listable source

variable {sort : VolumeSort} {access : LinuxSysMetricsAccess} {source : LinuxStorageVolume}

def listedVolume (source : LinuxStorageVolume) : Volume QString where
  mountPoint := source.mountPoint
  device := source.deviceName
  primary := source.mountPoint = "/"
  total := source.totalBytes
  available := source.availableBytes

theorem volumeBefore_iff {left right : LinuxStorageVolume} : volumeBefore left right = true ↔
    Before "/" (fun p q => QString.lt p q) left.mountPoint right.mountPoint := by
  have hroot : QString.lt "/" "/" = false := decide_eq_false (List.lt_irrefl _)
  unfold volumeBefore Before
  by_cases hl : left.mountPoint = "/" <;> by_cases hr : right.mountPoint = "/" <;>
    simp [hl, hr, hroot]

theorem texts_connected (p q : QString) (hne : p ≠ q) : QString.lt p q ∨ QString.lt q p := by
  by_contra hnot
  obtain ⟨hp, hq⟩ := not_or.mp hnot
  simp only [QString.lt, decide_eq_true_eq, List.not_lt] at hp hq
  exact hne (utf16_injective (List.le_antisymm hq hp))

/-- A mount point is seen only once it is listed, so the loop takes the first volume of each that
can be listed. -/
theorem volumeLoop_eq (seen : List QString) {room : Nat} (hroom : room ≠ 0)
    (sources : List LinuxStorageVolume) : volumeLoop seen room sources =
      ((firstOfEach LinuxStorageVolume.mountPoint seen (sources.filter listable)).take room).map
        volumeEntry := by
  induction sources generalizing seen room with
  | nil => simp [volumeLoop, firstOfEach]
  | cons source sources ih =>
    rw [volumeLoop]
    by_cases hlistable : listable source
    case neg =>
      rw [if_pos (by simp [hlistable]), List.filter_cons_of_neg hlistable, ih seen hroom]
    case pos =>
      rw [List.filter_cons_of_pos hlistable, firstOfEach]
      by_cases hseen : source.mountPoint ∈ seen
      case pos => rw [if_pos (by simp [hseen]), if_pos hseen, ih seen hroom]
      case neg =>
        rw [if_neg (by simp [hlistable, hseen]), if_neg hseen]
        obtain ⟨more, rfl⟩ := Nat.exists_eq_succ_of_ne_zero hroom
        rw [Nat.succ_eq_add_one, List.take_succ_cons, List.map_cons, Nat.add_sub_cancel]
        split
        case isTrue hlast =>
          obtain rfl : more = 0 := by omega
          rfl
        case isFalse hmore => rw [ih _ (by omega)]

theorem sound_listedVolume (h : listable source) :
    (listedVolume source).Sound "/" (startsWith · "/dev/") := by
  simp only [listable, Bool.and_eq_true, Bool.or_eq_true, decide_eq_true_eq, ne_eq] at h
  obtain ⟨⟨⟨⟨⟨⟨⟨-, htotal⟩, hle⟩, hbacked⟩, -⟩, -⟩, -⟩, -⟩ := h
  exact ⟨decide_eq_true_iff, ⟨UInt64.pos_iff_ne_zero.mpr htotal, hle⟩, hbacked⟩

/-- All volumes that could be listed, in order. -/
def sources (sort : VolumeSort) (access : LinuxSysMetricsAccess) : List LinuxStorageVolume :=
  firstOfEach LinuxStorageVolume.mountPoint [] ((sort.apply access.storageVolumes).filter listable)

theorem sources_ordered : ((sources sort access).map LinuxStorageVolume.mountPoint).Pairwise
    (Before "/" fun p q => QString.lt p q) := by
  have hsorted : (sort.apply access.storageVolumes).Pairwise fun left right =>
      ¬ Before "/" (fun p q => QString.lt p q) right.mountPoint left.mountPoint :=
    (sort.sorted _).imp fun hle hbefore => by
      rw [volumeBefore_iff.mpr hbefore] at hle
      cases hle
  exact pairwise_firstOfEach (hsorted.sublist List.filter_sublist) (before_connected texts_connected)

theorem sources_complete {p : QString} (hp : EligibleVolume access p) :
    p ∈ (sources sort access).map LinuxStorageVolume.mountPoint := by
  obtain ⟨source, hsource, rfl, hlistable⟩ := hp
  refine exists_firstOfEach (List.mem_filter.mpr ⟨?_, hlistable⟩) List.not_mem_nil
  exact (sort.perm _).mem_iff.mpr hsource

theorem collector_canonical (qt : QtNumbers) (order : HashOrder) (sort : VolumeSort)
    (collector : LinuxSysMetricsCollector) (access : LinuxSysMetricsAccess) :
    ∃ volumes, List.Forall₂ Listed volumes
        (collect qt order sort collector access).2.metrics.storageVolumes ∧
      Canonical "/" (fun p q => QString.lt p q) (startsWith · "/dev/") (EligibleVolume access)
        volumes := by
  have hpoints : ((sources sort access).map listedVolume).map Volume.mountPoint =
      (sources sort access).map LinuxStorageVolume.mountPoint := by
    rw [List.map_map]
    rfl
  have hsound : ∀ volume ∈ (sources sort access).map listedVolume,
      volume.Sound "/" (startsWith · "/dev/") :=
    List.forall_mem_map.mpr fun source hs =>
      sound_listedVolume (List.mem_filter.mp (mem_firstOfEach hs).1).2
  have hlist : (collect qt order sort collector access).2.metrics.storageVolumes =
      ((sources sort access).take 64).map volumeEntry := volumeLoop_eq [] (by decide) _
  refine ⟨((sources sort access).map listedVolume).take 64, ?_, ?_⟩
  · rw [hlist, ← List.map_take, List.forall₂_map_left_iff, List.forall₂_map_right_iff]
    exact List.forall₂_same.mpr fun _ _ => ⟨rfl, rfl, rfl, rfl, rfl⟩
  · refine canonical_take ?_ ?_ hsound fun p hp => ?_
    · rw [hpoints]
      exact nodup_firstOfEach _ _
    · rw [hpoints]
      exact sources_ordered
    · rw [hpoints]
      exact sources_complete hp

end Collector

/-- Both programs build canonical lists; the totals of the daemon's fit the wire. -/
theorem storage_lists_canonical :
    (∀ (sort : MountSort) (h : Host) (now : Int64) (c : Daemon.Collector),
      ∃ volumes, List.Forall₂ Reported volumes
          (mapsAt (reported (metrics sort h now c).2) "storage_volumes") ∧
        Canonical (lit "/") (· < ·) (lit "/dev/" <+: ·) (EligibleMount h) volumes ∧
        ∀ volume ∈ volumes, volume.total ≤ 0x7fffffffffffffff) ∧
    ∀ (qt : QtNumbers) (order : HashOrder) (sort : VolumeSort)
      (collector : LinuxSysMetricsCollector) (access : LinuxSysMetricsAccess),
      ∃ volumes, List.Forall₂ Listed volumes
          (collect qt order sort collector access).2.metrics.storageVolumes ∧
        Canonical "/" (fun p q => QString.lt p q) (startsWith · "/dev/") (EligibleVolume access)
          volumes :=
  ⟨daemon_canonical, collector_canonical⟩

end RpiDashboard.Sysmetrics
