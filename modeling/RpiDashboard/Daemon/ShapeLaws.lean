import RpiDashboard.Daemon.Shape
import RpiDashboard.Daemon.ValueLaws
import RpiDashboard.Protocol.WireFormatLaws

/-! Two codecs, one wire format: what the dashboard reads from the daemon's bytes. -/

namespace RpiDashboard.Daemon

open Numeric Qt Protocol Cbor

mutual
/-- The value that Qt reads for a value of the daemon. -/
def Value.toQt : Value → QCborValue
  | .unsigned n => .integer n.toInt64
  | .number d => .double d
  | .text t => .string ((fromUtf8? t).getD "")
  | .bytes b => .byteArray b
  | .boolean b => .boolean b
  | .array xs => .array (toQtItems xs)
  | .map m => .map ((sortEntries (toQtEntries m)).map Prod.snd)

def toQtItems : List Value → List QCborValue
  | [] => []
  | x :: xs => x.toQt :: toQtItems xs

def toQtEntries : List (StdString × Value) → List (List UInt8 × QCborValue × QCborValue)
  | [] => []
  | (k, x) :: m => (head 3 k.length ++ k, .string ((fromUtf8? k).getD ""), x.toQt) :: toQtEntries m
end

/-- Values that Qt can hold: integers in the signed range, texts in UTF-8. -/
inductive Value.Fits : Nat → Value → Prop
  | unsigned {depth n} : InRange n → Fits (depth + 1) (.unsigned n)
  | number {depth d} : Fits (depth + 1) (.number d)
  | text {depth} {s : QString} : Fits (depth + 1) (.text (toUtf8 s))
  | bytes {depth b} : Fits (depth + 1) (.bytes b)
  | boolean {depth b} : Fits (depth + 1) (.boolean b)
  | array {depth xs} : (∀ x ∈ xs, Fits depth x) → Fits (depth + 1) (.array xs)
  | map {depth m} : (∀ e ∈ m, ∃ s : QString, e.1 = toUtf8 s) → (∀ e ∈ m, Fits (depth + 1) e.2) →
      Fits (depth + 2) (.map m)

theorem toQtItems_eq_map (xs : List Value) : toQtItems xs = xs.map Value.toQt := by
  induction xs with
  | nil => rfl
  | cons x xs ih => rw [toQtItems, ih, List.map_cons]

/-- One entry of a map as Qt reads it. -/
def toQtEntry (e : StdString × Value) : QCborValue × QCborValue :=
  (.string ((fromUtf8? e.1).getD ""), e.2.toQt)

theorem toQtEntries_eq_map (m : StdMap) :
    toQtEntries m = m.map fun e => (head 3 e.1.length ++ e.1, toQtEntry e) := by
  induction m with
  | nil => rfl
  | cons e m ih => rw [toQtEntries, ih, List.map_cons, toQtEntry]

theorem Value.Fits.plain {v : Value} {depth : Nat} (h : v.Fits depth) : v.toQt.Plain depth := by
  induction h with
  | array _ ih =>
    rw [Value.toQt, toQtItems_eq_map]
    intro w hw
    obtain ⟨x, hx, rfl⟩ := List.mem_map.mp hw
    exact ih x hx
  | @map depth m hkeys _ ih =>
    rw [Value.toQt]
    intro w hw
    obtain ⟨p, hp, rfl⟩ := List.mem_map.mp hw
    rw [(sortEntries_perm _).mem_iff, toQtEntries_eq_map] at hp
    obtain ⟨e, he, rfl⟩ := List.mem_map.mp hp
    exact ⟨by simp [toQtEntry], ih e he⟩
  | _ => trivial

theorem Value.Fits.toItem {v : Value} {depth : Nat} (h : v.Fits depth) :
    v.toQt.toItem = v.toItem := by
  induction h with
  | @unsigned depth n hn =>
    have hnonneg : 0 ≤ n.toInt64.toInt := by simp [Codec.toInt_toInt64 hn]
    rw [Value.toQt, QCborValue.toItem, if_pos hnonneg, Codec.toInt_toInt64 hn]
    simp [Value.toItem]
  | number => rfl
  | @text depth s => simp [Value.toQt, Value.toItem, QCborValue.toItem]
  | bytes => rfl
  | boolean => rfl
  | @array depth xs _ ih =>
    simp only [Value.toQt, Value.toItem, QCborValue.toItem, toQtItems_eq_map, toItems_eq_map,
      Qt.toItems_eq_map, List.map_map]
    exact congrArg _ (List.map_congr_left ih)
  | @map depth m hkeys _ ih =>
    have hentries : toEntries m = (toQtEntries m).map fun e => (e.1, toEntry e.2) := by
      rw [toEntries_eq_map, toQtEntries_eq_map, List.map_map]
      refine List.map_congr_left fun e he => ?_
      obtain ⟨s, hs⟩ := hkeys e he
      simp [toQtEntry, toEntry, ih e he, hs, QCborValue.toItem]
    simp only [Value.toQt, Value.toItem, QCborValue.toItem, Qt.toEntries_eq_map, hentries,
      sortEntries_map, List.map_map]
    rfl

theorem encodedSize_toQt {v : Value} {depth : Nat} (h : v.Fits depth) :
    v.toQt.encodedSize = (cbor v).length := by
  rw [QCborValue.encodedSize, h.toItem, cbor, encode_eq]

/-- Qt reads back what the daemon wrote. -/
theorem fromCbor_cbor {qt : QtCbor} (hqt : qt.Rfc8949) {v : Value} (h : v.Fits 16)
    (hs : (cbor v).length < 2 ^ 63) : qt.fromCbor (cbor v) = some v.toQt := by
  rw [cbor, encode_eq, ← h.toItem]
  exact hqt.fromCbor_encode _ h.plain (encodedSize_toQt h ▸ hs)

section Lookup

variable {m : StdMap} {key : String} {fields : List (String × (Value → Prop))}

theorem lit_eq (s : String) : lit s = toUtf8 s := rfl

theorem toUtf8_injective : Function.Injective toUtf8 := fun s t h => by
  have := congrArg fromUtf8? h
  simpa using this

def toQtMap (m : StdMap) : QCborMap := (sortEntries (toQtEntries m)).map Prod.snd

@[simp] theorem toQt_map (m : StdMap) : (Value.map m).toQt = .map (toQtMap m) := by
  rw [Value.toQt, toQtMap]

theorem toQtMap_perm (m : StdMap) : (toQtMap m).Perm (m.map toQtEntry) := by
  refine ((sortEntries_perm (toQtEntries m)).map Prod.snd).trans (.of_eq ?_)
  rw [toQtEntries_eq_map, List.map_map]
  rfl

theorem distinct_map_toQtEntry (hkeys : ∀ e ∈ m, ∃ s : QString, e.1 = toUtf8 s)
    (hn : (m.map Prod.fst).Nodup) : QCborMap.Distinct (m.map toQtEntry) := by
  have hstrings : QCborMap.stringKeys (m.map toQtEntry) =
      (m.map Prod.fst).map fun k => (fromUtf8? k).getD "" := by
    induction m with
    | nil => rfl
    | cons e m ih =>
      rw [List.map_cons, toQtEntry, QCborMap.stringKeys_cons_string, ih
        (fun e he => hkeys e (List.mem_cons_of_mem _ he)) (List.nodup_cons.mp hn).2]
      rfl
  rw [QCborMap.Distinct, hstrings]
  refine List.Nodup.map_on ?_ hn
  intro k hk l hl heq
  obtain ⟨e, he, rfl⟩ := List.mem_map.mp hk
  obtain ⟨f, hf, rfl⟩ := List.mem_map.mp hl
  obtain ⟨s, hs⟩ := hkeys e he
  obtain ⟨t, ht⟩ := hkeys f hf
  simpa [hs, ht, toUtf8_injective.eq_iff] using heq

theorem value_map_toQtEntry (hkeys : ∀ e ∈ m, ∃ s : QString, e.1 = toUtf8 s) :
    QCborMap.value (m.map toQtEntry) key = Protocol.optional ((m.find (lit key)).map Value.toQt) := by
  induction m with
  | nil => rfl
  | cons e m ih =>
    obtain ⟨k, v⟩ := e
    obtain ⟨s, rfl⟩ : ∃ s : QString, k = toUtf8 s := hkeys (k, v) List.mem_cons_self
    rw [List.map_cons, toQtEntry, fromUtf8?_toUtf8, Option.getD_some, QCborMap.value, StdMap.find,
      lit_eq, ih fun e he => hkeys e (List.mem_cons_of_mem _ he)]
    by_cases h : s = key
    · simp [h, Protocol.optional]
    · rw [if_neg h, if_neg fun e => h (toUtf8_injective e), lit_eq]

theorem Entries.keys (h : Entries fields m) : ∀ e ∈ m, ∃ s : QString, e.1 = toUtf8 s := by
  intro e he
  obtain ⟨f, -, hf, -⟩ := h.field e he
  exact ⟨f.1, hf⟩

theorem value_toQtMap (hkeys : ∀ e ∈ m, ∃ s : QString, e.1 = toUtf8 s)
    (hn : (m.map Prod.fst).Nodup) :
    (toQtMap m).value key = Protocol.optional ((m.find (lit key)).map Value.toQt) := by
  rw [QCborMap.value_perm (distinct_map_toQtEntry hkeys hn) (toQtMap_perm m)]
  exact value_map_toQtEntry hkeys

theorem mem_of_find {k : StdString} {v : Value} (h : m.find k = some v) : (k, v) ∈ m := by
  induction m with
  | nil => cases h
  | cons e m ih =>
    rw [StdMap.find] at h
    split at h
    · rename_i hk
      cases h
      exact hk ▸ List.mem_cons_self
    · exact List.mem_cons_of_mem _ (ih h)

theorem find_of_mem {k : StdString} {v : Value} (hn : (m.map Prod.fst).Nodup) (h : (k, v) ∈ m) :
    m.find k = some v := by
  induction m with
  | nil => cases h
  | cons e m ih =>
    obtain ⟨hkey, hrest⟩ := List.nodup_cons.mp hn
    rw [StdMap.find]
    rcases List.mem_cons.mp h with rfl | h
    · exact if_pos rfl
    · have hne : e.1 ≠ k := fun heq => hkey (heq ▸ List.mem_map_of_mem h)
      rw [if_neg hne, ih hrest h]

end Lookup

section Fields

variable {m : StdMap} {key : String} {fields : List (String × (Value → Prop))}

/-- `key` is a field of the kind `P`. -/
def FieldOf (fields : List (String × (Value → Prop))) (key : String) (P : Value → Prop) : Prop :=
  ∀ f ∈ fields, f.1 = key → f.2 = P

theorem entries_nil (fields : List (String × (Value → Prop))) : Entries fields [] :=
  ⟨List.nodup_nil, by simp⟩

theorem Entries.value (h : Entries fields m) (key : String) :
    (toQtMap m).value key = Protocol.optional ((m.find (lit key)).map Value.toQt) :=
  value_toQtMap h.keys h.nodup

theorem Entries.kind (h : Entries fields m) {P : Value → Prop} (hf : FieldOf fields key P)
    {v : Value} (hv : m.find (lit key) = some v) : P v := by
  obtain ⟨f, hm, hk, hP⟩ := h.field _ (mem_of_find hv)
  rwa [hf f hm (toUtf8_injective hk).symm] at hP

/-- Reading a field back, whatever its kind. -/
theorem Entries.leaf (h : Entries fields m) {P : Value → Prop} (hf : FieldOf fields key P)
    {α : Type} {get : Value → Option α} {put : α → QCborValue}
    (hP : ∀ v, P v → ∃ a, get v = some a ∧ v.toQt = put a) :
    (toQtMap m).value key = Protocol.optional (((m.find (lit key)).bind get).map put) := by
  rw [h.value]
  cases hv : m.find (lit key) with
  | none => rfl
  | some v =>
    obtain ⟨a, hget, hput⟩ := hP v (h.kind hf hv)
    simp [hget, hput]

theorem Entries.text (h : Entries fields m) (hf : FieldOf fields key IsText) :
    (toQtMap m).value key = ofText (textAt m key) := by
  refine h.leaf hf ?_
  rintro _ ⟨s, rfl⟩
  exact ⟨s, by simp [Value.text?], by simp [Value.toQt]⟩

theorem Entries.unsigned (h : Entries fields m) (hf : FieldOf fields key IsUnsigned) :
    (toQtMap m).value key = ofInteger (unsignedAt m key) := by
  refine h.leaf hf ?_
  rintro _ ⟨n, rfl, -⟩
  exact ⟨n, rfl, by rw [Value.toQt]⟩

theorem Entries.count (h : Entries fields m) (hf : FieldOf fields key IsCount) :
    (toQtMap m).value key = ofCount (countAt m key) := by
  refine h.leaf hf ?_
  rintro _ ⟨n, rfl⟩
  exact ⟨n, by simp [Value.count?, Value.unsigned?], by rw [Value.toQt]⟩

theorem Entries.number (h : Entries fields m) (hf : FieldOf fields key IsNumber) :
    (toQtMap m).value key = ofNumber (numberAt m key) := by
  refine h.leaf hf ?_
  rintro _ ⟨d, rfl⟩
  exact ⟨d, rfl, by rw [Value.toQt]⟩

theorem map_toQt_texts {xs : List Value} (h : ∀ x ∈ xs, IsText x) :
    xs.map Value.toQt = (xs.filterMap Value.text?).map QCborValue.string := by
  induction xs with
  | nil => rfl
  | cons x xs ih =>
    obtain ⟨⟨s, rfl⟩, hxs⟩ := List.forall_mem_cons.mp h
    simp [Value.toQt, Value.text?, ih hxs]

theorem Entries.texts (h : Entries fields m) (hf : FieldOf fields key (IsList IsText)) :
    (toQtMap m).value key =
      Protocol.optional ((textsAt m key).map fun ids => .array (ids.map .string)) := by
  rw [h.value, textsAt, arrayAt]
  cases hv : m.find (lit key) with
  | none => rfl
  | some v =>
    obtain ⟨xs, rfl, hxs⟩ := h.kind hf hv
    simp [Value.toQt, Value.array?, toQtItems_eq_map, map_toQt_texts hxs]

theorem Entries.requiredText (h : Entries fields m) (hf : FieldOf fields key IsText)
    (hr : (m.find (lit key)).isSome) :
    (toQtMap m).value key = .string ((textAt m key).getD "") := by
  obtain ⟨v, hv⟩ := Option.isSome_iff_exists.mp hr
  obtain ⟨s, rfl⟩ := h.kind hf hv
  simp [h.value, textAt, hv, Value.toQt, Value.text?, Protocol.optional]

theorem Entries.requiredFlag (h : Entries fields m) (hf : FieldOf fields key IsFlag)
    (hr : (m.find (lit key)).isSome) :
    (toQtMap m).value key = .boolean ((flagAt m key).getD false) := by
  obtain ⟨v, hv⟩ := Option.isSome_iff_exists.mp hr
  obtain ⟨b, rfl⟩ := h.kind hf hv
  simp [h.value, flagAt, hv, Value.toQt, Value.boolean?, Protocol.optional]

theorem Entries.section (h : Entries fields m) {sub : List (String × (Value → Prop))}
    (hf : FieldOf fields key (IsMap sub)) {P : QCborMap → Prop}
    (hP : Entries sub (mapAt m key) → P (toQtMap (mapAt m key))) :
    SectionCarriedBy P (toQtMap m) key := by
  rw [SectionCarriedBy, Codec.sectionOf, h.value]
  cases hv : m.find (lit key) with
  | none =>
    have hmap : mapAt m key = [] := by simp [mapAt, hv]
    rw [hmap] at hP
    exact ⟨[], rfl, hP (entries_nil sub)⟩
  | some v =>
    obtain ⟨s, rfl, hs⟩ := h.kind hf hv
    have hmap : mapAt m key = s := by simp [mapAt, hv, Value.map?]
    rw [hmap] at hP
    exact ⟨toQtMap s, by simp [Protocol.optional], hP hs⟩

theorem listCarriedBy_array {required : List String} {sub : List (String × (Value → Prop))}
    {α : Type} {R : α → QCborMap → Prop} {read : StdMap → α}
    (hR : ∀ s, Entries sub s → (∀ k ∈ required, (StdMap.find s (lit k)).isSome) →
      R (read s) (toQtMap s))
    {xs : List Value} (hxs : ∀ x ∈ xs, IsEntry required sub x) :
    ∃ items : List QCborMap, xs.map Value.toQt = items.map .map ∧
      List.Forall₂ R ((xs.filterMap Value.map?).map read) items := by
  induction xs with
  | nil => exact ⟨[], rfl, .nil⟩
  | cons x xs ih =>
    obtain ⟨⟨s, rfl, hs, hrequired⟩, hrest⟩ := List.forall_mem_cons.mp hxs
    obtain ⟨items, hitems, hcarried⟩ := ih hrest
    exact ⟨toQtMap s :: items, by simp [hitems], .cons (hR s hs hrequired) hcarried⟩

theorem Entries.list (h : Entries fields m) {required : List String}
    {sub : List (String × (Value → Prop))} (hf : FieldOf fields key (IsList (IsEntry required sub)))
    {α : Type} {R : α → QCborMap → Prop} {read : StdMap → α}
    (hR : ∀ s, Entries sub s → (∀ k ∈ required, (StdMap.find s (lit k)).isSome) →
      R (read s) (toQtMap s)) :
    ListCarriedBy R ((mapsAt m key).map read) ((toQtMap m).value key) := by
  rw [h.value, mapsAt, arrayAt]
  cases hv : m.find (lit key) with
  | none => exact .inl ⟨rfl, rfl⟩
  | some v =>
    obtain ⟨xs, rfl, hxs⟩ := h.kind hf hv
    obtain ⟨items, hitems, hcarried⟩ := listCarriedBy_array hR hxs
    exact .inr ⟨items, by simp [Value.toQt, Protocol.optional, toQtItems_eq_map, hitems], hcarried⟩

/-- A key that is no field reads as `undefined`. -/
theorem Entries.absent (h : Entries fields m) (hf : ∀ f ∈ fields, f.1 ≠ key) :
    (toQtMap m).value key = .undefined := by
  rw [h.value]
  cases hv : m.find (lit key) with
  | none => rfl
  | some v =>
    obtain ⟨f, hm, hk, -⟩ := h.field _ (mem_of_find hv)
    exact absurd (toUtf8_injective hk).symm (hf f hm)

end Fields

section SystemInfo

variable {m : StdMap}

theorem hostOf_carriedBy (h : Entries hostFields m) : (hostOf m).CarriedBy (toQtMap m) :=
  ⟨h.text (by simp [FieldOf, hostFields])⟩

theorem osOf_carriedBy (h : Entries osFields m) : (osOf m).CarriedBy (toQtMap m) where
  osFamily := h.text (by simp [FieldOf, osFields])
  osId := h.text (by simp [FieldOf, osFields])
  osVersion := h.text (by simp [FieldOf, osFields])
  osPrettyName := h.text (by simp [FieldOf, osFields])

theorem kernelOf_carriedBy (h : Entries kernelFields m) : (kernelOf m).CarriedBy (toQtMap m) where
  kernelType := h.text (by simp [FieldOf, kernelFields])
  kernelVersion := h.text (by simp [FieldOf, kernelFields])

theorem hardwareOf_carriedBy (h : Entries hardwareFields m) :
    (hardwareOf m).CarriedBy (toQtMap m) where
  manufacturer := h.text (by simp [FieldOf, hardwareFields])
  model := h.text (by simp [FieldOf, hardwareFields])
  boardRevision := h.text (by simp [FieldOf, hardwareFields])
  compatibleIds := h.texts (by simp [FieldOf, hardwareFields])

theorem cpuOf_carriedBy (h : Entries cpuFields m) : (cpuOf m).CarriedBy (toQtMap m) where
  architecture := h.text (by simp [FieldOf, cpuFields])
  vendor := h.text (by simp [FieldOf, cpuFields])
  model := h.text (by simp [FieldOf, cpuFields])
  logicalCpuCount := h.count (by simp [FieldOf, cpuFields])
  physicalCoreCount := h.count (by simp [FieldOf, cpuFields])

theorem memoryOf_carriedBy (h : Entries memoryFields m) : (memoryOf m).CarriedBy (toQtMap m) :=
  ⟨h.unsigned (by simp [FieldOf, memoryFields])⟩

theorem systemInfoOf_carriedBy (h : Entries systemInfoFields m) :
    (systemInfoOf (.map m)).CarriedBy (toQtMap m) where
  host := h.section (by simp [FieldOf, systemInfoFields]) hostOf_carriedBy
  os := h.section (by simp [FieldOf, systemInfoFields]) osOf_carriedBy
  kernel := h.section (by simp [FieldOf, systemInfoFields]) kernelOf_carriedBy
  hardware := h.section (by simp [FieldOf, systemInfoFields]) hardwareOf_carriedBy
  cpu := h.section (by simp [FieldOf, systemInfoFields]) cpuOf_carriedBy
  memory := h.section (by simp [FieldOf, systemInfoFields]) memoryOf_carriedBy

end SystemInfo

section Metrics

variable {m : StdMap}

theorem metricsCpuOf_carriedBy (h : Entries metricsCpuFields m) :
    (metricsCpuOf m).CarriedBy (toQtMap m) where
  usageRatio := h.number (by simp [FieldOf, metricsCpuFields])
  temperatureCelsius := h.number (by simp [FieldOf, metricsCpuFields])
  logicalCpus := .inl ⟨rfl, h.absent (by simp [metricsCpuFields])⟩

theorem metricsMemoryOf_carriedBy (h : Entries metricsMemoryFields m) :
    (metricsMemoryOf m).CarriedBy (toQtMap m) where
  totalBytes := h.unsigned (by simp [FieldOf, metricsMemoryFields])
  availableBytes := h.unsigned (by simp [FieldOf, metricsMemoryFields])
  swapTotalBytes := h.unsigned (by simp [FieldOf, metricsMemoryFields])
  swapAvailableBytes := h.unsigned (by simp [FieldOf, metricsMemoryFields])

theorem systemOf_carriedBy (h : Entries systemFields m) : (systemOf m).CarriedBy (toQtMap m) where
  uptimeSeconds := h.number (by simp [FieldOf, systemFields])
  loadAverage1m := h.number (by simp [FieldOf, systemFields])
  loadAverage5m := h.number (by simp [FieldOf, systemFields])
  loadAverage15m := h.number (by simp [FieldOf, systemFields])

theorem storageVolumeOf_carriedBy (h : Entries storageVolumeFields m)
    (hr : ∀ k ∈ ["mount_point", "device_name", "primary", "read_only"],
      (StdMap.find m (lit k)).isSome) :
    (storageVolumeOf m).CarriedBy (toQtMap m) where
  mountPoint := h.requiredText (by simp [FieldOf, storageVolumeFields]) (hr _ (by simp))
  deviceName := h.requiredText (by simp [FieldOf, storageVolumeFields]) (hr _ (by simp))
  primary := h.requiredFlag (by simp [FieldOf, storageVolumeFields]) (hr _ (by simp))
  readOnly := h.requiredFlag (by simp [FieldOf, storageVolumeFields]) (hr _ (by simp))
  totalBytes := h.unsigned (by simp [FieldOf, storageVolumeFields])
  availableBytes := h.unsigned (by simp [FieldOf, storageVolumeFields])

theorem networkInterfaceOf_carriedBy (h : Entries networkInterfaceFields m)
    (hr : ∀ k ∈ ["name"], (StdMap.find m (lit k)).isSome) :
    (networkInterfaceOf m).CarriedBy (toQtMap m) where
  name := h.requiredText (by simp [FieldOf, networkInterfaceFields]) (hr _ (by simp))
  rxBytes := h.unsigned (by simp [FieldOf, networkInterfaceFields])
  txBytes := h.unsigned (by simp [FieldOf, networkInterfaceFields])
  rxBytesPerSecond := h.number (by simp [FieldOf, networkInterfaceFields])
  txBytesPerSecond := h.number (by simp [FieldOf, networkInterfaceFields])

theorem gpuOf_carriedBy (h : Entries gpuFields m)
    (hr : ∀ k ∈ ["name"], (StdMap.find m (lit k)).isSome) :
    (gpuOf m).CarriedBy (toQtMap m) where
  name := h.requiredText (by simp [FieldOf, gpuFields]) (hr _ (by simp))
  usageRatio := h.number (by simp [FieldOf, gpuFields])
  memoryTotalBytes := h.absent (by simp [gpuFields])
  memoryUsedBytes := h.absent (by simp [gpuFields])
  coreClockHz := h.unsigned (by simp [FieldOf, gpuFields])
  memoryClockHz := h.absent (by simp [gpuFields])
  temperatureCelsius := h.number (by simp [FieldOf, gpuFields])

theorem metricsOf_carriedBy (h : Entries metricsFields m) :
    (metricsOf (.map m)).CarriedBy (toQtMap m) where
  cpu := h.section (by simp [FieldOf, metricsFields]) metricsCpuOf_carriedBy
  memory := h.section (by simp [FieldOf, metricsFields]) metricsMemoryOf_carriedBy
  system := h.section (by simp [FieldOf, metricsFields]) systemOf_carriedBy
  storageVolumes := h.list (by simp [FieldOf, metricsFields]) fun _ => storageVolumeOf_carriedBy
  networkInterfaces :=
    h.list (by simp [FieldOf, metricsFields]) fun _ => networkInterfaceOf_carriedBy
  gpus := h.list (by simp [FieldOf, metricsFields]) fun _ => gpuOf_carriedBy

end Metrics

end RpiDashboard.Daemon
