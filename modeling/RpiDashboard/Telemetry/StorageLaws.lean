import Mathlib.Data.List.Forall2
import RpiDashboard.Protocol.DecoderLaws
import RpiDashboard.Protocol.RoundTripLaws
import RpiDashboard.Telemetry.LifecycleLaws
import RpiDashboard.Telemetry.Storage

/-! The loader reads exactly the files that list valid devices, and the writer
writes such a file. -/

namespace RpiDashboard.Telemetry

open Qt Protocol Codec RemoteDeviceRegistry

variable {qt : QtCbor}

@[simp] theorem Device.deviceId_stored (item : Device) : item.stored.deviceId = item.deviceId := rfl

@[simp] theorem Device.stored_stored (item : Device) : item.stored.stored = item.stored := rfl

theorem decodeSystemInfo_sound {bytes : QByteArray} {info : SystemInfo}
    (h : decodeSystemInfo qt bytes = some info) : info.Valid := by
  obtain ⟨value, -, hv⟩ := Option.bind_eq_some_iff.mp h
  exact infoFromMap_sound hv

section Entries

variable {seen : List QUuid}

theorem readEntry_sound {value : QCborValue} {item : Device}
    (h : readEntry qt seen value = some item) :
    item.ReadFrom qt value ∧ item.stored = item ∧ item.deviceId ∉ seen := by
  cases value with
  | map entry =>
    simp only [readEntry] at h
    split at h
    · rename_i idBytes name interval infoBytes hid hname hinterval hinfo
      split at h
      · cases h
      · rename_i hlimits
        simp only [ne_eq, Bool.or_eq_true, decide_eq_true_eq, not_or, not_not, gt_iff_lt,
          not_lt] at hlimits
        obtain ⟨⟨⟨⟨hlen, hne⟩, hsize⟩, hlow⟩, hhigh⟩ := hlimits
        split at h
        · rename_i info hdecode
          split at h
          · cases h
          · rename_i hnew
            cases h
            simp only [QUuid.isNull, Bool.or_eq_true, decide_eq_true_eq, List.contains_iff_mem,
              not_or] at hnew
            refine ⟨⟨⟨hnew.1, ⟨hne, hsize⟩, ?_, decodeSystemInfo_sound hdecode⟩, entry, rfl,
              ?_, hname, ⟨interval, hinterval, rfl⟩, infoBytes, hinfo, hdecode⟩, rfl, hnew.2⟩
            · have hr : readInterval (.integer interval) = some interval.toInt := by
                simp [readInterval, hlow, hhigh]
              exact readInterval_sound hr
            · rw [hid]
              simp [QUuid.fromRfc4122, QUuid.toRfc4122, hlen]
        · cases h
    · cases h
  | _ => cases h

theorem readEntry_of_readFrom {value : QCborValue} {item : Device} (h : item.ReadFrom qt value)
    (hs : item.deviceId ∉ seen) : readEntry qt seen value = some item.stored := by
  obtain ⟨hv, entry, rfl, ⟨hid, hname, ⟨interval, hinterval, hi⟩, bytes, hinfo, hdecode⟩⟩ := h
  have hlow : ¬ interval < 1 := by
    rw [Int64.lt_iff_toInt_lt, hi]
    exact Int.not_lt.mpr hv.interval.1
  have hhigh : ¬ interval > 5 := by
    rw [gt_iff_lt, Int64.lt_iff_toInt_lt, hi]
    exact Int.not_lt.mpr hv.interval.2
  have hlen : item.deviceId.toRfc4122.length = 16 := item.deviceId.length_eq
  have hsize : ¬ (toUtf8 item.displayName).length > 128 := Nat.not_lt.mpr hv.displayName.2
  simp only [readEntry, hid, hname, hinterval, hinfo, hdecode, hlen, hv.displayName.1, hsize, hlow,
    hhigh, QUuid.fromRfc4122_toRfc4122, QUuid.isNull, hv.deviceId]
  simp [Device.stored, hi, hs]

theorem readEntries_sound {values : List QCborValue} {items : List Device}
    (h : readEntries qt seen values = some items) :
    List.Forall₂ (Device.ReadFrom qt) items values ∧ items.map Device.stored = items ∧
      (items.map Device.deviceId).Nodup ∧ ∀ item ∈ items, item.deviceId ∉ seen := by
  induction values generalizing seen items with
  | nil =>
    cases h
    simp
  | cons value values ih =>
    simp only [readEntries, Option.bind_eq_bind, Option.bind_eq_some_iff, Option.pure_def,
      Option.some.injEq] at h
    obtain ⟨item, hitem, rest, hrest, rfl⟩ := h
    obtain ⟨hread, hstored, hnew⟩ := readEntry_sound hitem
    obtain ⟨ih, hrests, hnodup, hseen⟩ := ih hrest
    simp only [List.mem_cons, not_or] at hseen
    refine ⟨.cons hread ih, by simp [hstored, hrests], ?_, ?_⟩
    · rw [List.map_cons, List.nodup_cons]
      refine ⟨fun hm => ?_, hnodup⟩
      obtain ⟨other, ho, he⟩ := List.mem_map.mp hm
      exact (hseen other ho).1 he
    · intro other ho
      rcases List.mem_cons.mp ho with rfl | ho
      · exact hnew
      · exact (hseen other ho).2

theorem readEntries_of_readFrom {values : List QCborValue} {items : List Device}
    (h : List.Forall₂ (Device.ReadFrom qt) items values) (hn : (items.map Device.deviceId).Nodup)
    (hs : ∀ item ∈ items, item.deviceId ∉ seen) :
    readEntries qt seen values = some (items.map Device.stored) := by
  induction h generalizing seen with
  | nil => rfl
  | @cons item value items values hread hrest ih =>
    rw [List.map_cons, List.nodup_cons] at hn
    have hrest : readEntries qt (item.deviceId :: seen) values = some (items.map Device.stored) := by
      refine ih hn.2 fun other ho => ?_
      rw [List.mem_cons, not_or]
      exact ⟨fun he => hn.1 (he ▸ List.mem_map_of_mem ho), hs other (List.mem_cons_of_mem _ ho)⟩
    simp [readEntries, readEntry_of_readFrom hread (hs item List.mem_cons_self), hrest]

end Entries

theorem readDevices_sound {bytes : QByteArray} {items : List Device}
    (h : readDevices qt bytes = some items) :
    StorageFile.Lists qt bytes items ∧ items.map Device.stored = items := by
  unfold readDevices at h
  split at h
  · rename_i root hroot
    split at h
    · rename_i version raw hversion hraw
      split at h
      · cases h
      · rename_i hlimits
        simp only [ne_eq, Bool.or_eq_true, decide_eq_true_eq, not_or, not_not, not_lt] at hlimits
        obtain ⟨rfl, hlen⟩ := hlimits
        obtain ⟨hread, hstored, hnodup, -⟩ := readEntries_sound h
        exact ⟨⟨hnodup, hread.length_eq ▸ hlen, root, raw, hroot, hversion, hraw, hread⟩, hstored⟩
    · cases h
  · cases h

theorem readDevices_of_lists {bytes : QByteArray} {items : List Device}
    (h : StorageFile.Lists qt bytes items) :
    readDevices qt bytes = some (items.map Device.stored) := by
  obtain ⟨hnodup, hlen, root, raw, hroot, hversion, hraw, hread⟩ := h
  have hlimit : ¬ raw.length > maximumDevices := hread.length_eq ▸ Nat.not_lt.mpr hlen
  simp only [readDevices, hroot, hversion, hraw, hlimit]
  exact readEntries_of_readFrom hread hnodup (by simp)

/-- A file is read whole or not at all. -/
theorem devices_create (qt : QtCbor) (storage : StorageFile) :
    (create qt storage).devices = [] ∨
      ∃ bytes, storage = .content bytes ∧ StorageFile.Lists qt bytes (create qt storage).devices ∧
        (create qt storage).devices.map Device.stored = (create qt storage).devices := by
  cases storage with
  | missing => exact .inl rfl
  | unreadable => exact .inl rfl
  | content bytes =>
    cases h : readDevices qt bytes with
    | none => exact .inl (by simp [create, load, h])
    | some items =>
      have hdevices : (create qt (.content bytes)).devices = items := by simp [create, load, h]
      rw [hdevices]
      exact .inr ⟨bytes, rfl, readDevices_sound h⟩

theorem wellFormed_create (storage : StorageFile) : (create qt storage).WellFormed := by
  obtain h | ⟨bytes, -, h, -⟩ := devices_create qt storage
  · constructor <;> simp [h, ids]
  · exact ⟨h.length_le, h.nodup⟩

theorem wellFormed_after (qt : QtCbor) (storage : StorageFile) (es : List Event) :
    (after qt storage es).WellFormed := (wellFormed_create storage).of_run es

theorem storable_create {storage : StorageFile} {item : Device}
    (hm : item ∈ (create qt storage).devices) : item.Storable ∧ item.stored = item := by
  obtain h | ⟨bytes, -, ⟨-, -, root, raw, -, -, -, hread⟩, hstored⟩ := devices_create qt storage
  · rw [h] at hm
    cases hm
  · refine ⟨((List.forall₂_and_left _ _).mp hread).1 item hm, ?_⟩
    rw [← hstored] at hm
    obtain ⟨other, -, rfl⟩ := List.mem_map.mp hm
    rfl

section Writer

variable {item : Device} {items : List Device}

theorem distinct_toMap (qt : QtCbor) (item : Device) : (item.toMap qt).Distinct := by
  simp [Device.toMap, QCborMap.Distinct]

theorem toMap_plain (qt : QtCbor) (item : Device) (depth : Nat) :
    QCborMap.Plain (depth + 1) (item.toMap qt) := by
  simp [Device.toMap, QCborMap.Plain]

theorem toValue_plain (qt : QtCbor) (items : List Device) : (toValue qt items).Plain 16 := by
  have harray : (QCborValue.array (items.map fun item => .map (item.toMap qt))).Plain 15 := by
    intro value hm
    obtain ⟨item, -, rfl⟩ := List.mem_map.mp hm
    exact toMap_plain qt item 12
  simp [toValue, QCborMap.Plain, harray]

theorem toMap_storedAs (h : qt.Rfc8949) (hv : item.Storable) {sort : QCborMap → QCborMap}
    (hsort : ∀ m, (sort m).Perm m) : item.StoredAs qt ((item.toMap qt).arrange sort) where
  deviceId := value_arrange_of hsort (distinct_toMap qt item) (by simp [Device.toMap]) (by simp)
  displayName := value_arrange_of hsort (distinct_toMap qt item) (by simp [Device.toMap]) (by simp)
  interval := by
    have hi : (Int64.ofInt item.intervalSeconds).toInt = item.intervalSeconds := by
      obtain ⟨h1, h5⟩ := hv.interval
      exact Int64.toInt_ofInt_of_le (by omega) (by omega)
    exact ⟨_, value_arrange_of hsort (distinct_toMap qt item) (by simp [Device.toMap]) (by simp), hi⟩
  systemInfo := ⟨_, value_arrange_of hsort (distinct_toMap qt item) (by simp [Device.toMap])
    (by simp), decodeSystemInfo_encodeSystemInfo h hv.systemInfo⟩

theorem encodedSize_toMap_le (h : qt.Rfc8949) (hv : item.Storable) :
    (QCborValue.map (item.toMap qt)).encodedSize ≤ 12460 := by
  have hname : (QCborValue.string item.displayName).encodedSize ≤ 131 :=
    textSize_le hv.displayName.2 (by omega)
  have hinterval := encodedSize_integer_le (Int64.ofInt item.intervalSeconds)
  have hbytes := length_encodeSystemInfo_le h hv.systemInfo
  have hinfo : (QCborValue.byteArray (encodeSystemInfo qt item.systemInfo)).encodedSize ≤ 12246 := by
    have := Cbor.length_head_le_three (show (encodeSystemInfo qt item.systemInfo).length < 65536 by omega) 2
    simp only [QCborValue.encodedSize, QCborValue.toItem, Cbor.Item.encode, List.length_append]
    omega
  have h₁ : textSize "device_id" = 10 := by decide
  have h₂ : textSize "display_name" = 13 := by decide
  have h₃ : textSize "interval_s" = 11 := by decide
  have h₄ : textSize "system_info" = 12 := by decide
  have hhead : (Cbor.head 5 4).length = 1 := by decide
  simp only [textSize] at h₁ h₂ h₃ h₄
  simp only [QCborValue.encodedSize_map, Device.toMap, QCborMap.entriesSize, List.map_cons,
    List.map_nil, List.sum_cons, List.sum_nil, List.length_cons, List.length_nil, encodedSize_uuid,
    h₁, h₂, h₃, h₄, hhead]
  omega

theorem encodedSize_toValue_lt (h : qt.Rfc8949) (hv : ∀ item ∈ items, item.Storable)
    (hlen : items.length ≤ maximumDevices) : (toValue qt items).encodedSize < 2 ^ 63 := by
  have hsum : ((items.map fun item => QCborValue.map (item.toMap qt)).map
      QCborValue.encodedSize).sum ≤ items.length * 12460 := by
    have := List.sum_le_card_nsmul ((items.map fun item => QCborValue.map (item.toMap qt)).map
      QCborValue.encodedSize) 12460 (by
        intro size hm
        simp only [List.map_map, List.mem_map, Function.comp_apply] at hm
        obtain ⟨item, hm, rfl⟩ := hm
        exact encodedSize_toMap_le h (hv item hm))
    simpa using this
  have harray := Cbor.length_head_le_nine 4 items.length
  have hversion := encodedSize_integer_le 1
  have h₁ : textSize "devices" = 8 := by decide
  have h₂ : textSize "version" = 8 := by decide
  have hhead : (Cbor.head 5 2).length = 1 := by decide
  simp only [textSize] at h₁ h₂
  simp only [toValue, QCborValue.encodedSize_map, QCborMap.entriesSize, List.map_cons, List.map_nil,
    List.sum_cons, List.sum_nil, List.length_cons, List.length_nil, QCborValue.encodedSize_array,
    List.length_map, h₁, h₂, hhead]
  rw [maximumDevices] at hlen
  omega

/-- What `persist` writes is a file that lists the devices. -/
theorem lists_toValue (h : qt.Rfc8949) (hv : ∀ item ∈ items, item.Storable)
    (hn : (items.map Device.deviceId).Nodup) (hlen : items.length ≤ maximumDevices) :
    StorageFile.Lists qt (qt.toCbor (toValue qt items)) items := by
  obtain ⟨sort, hsort, hqt⟩ := h.fromCbor_toCbor
  have hread := (hqt _ (toValue_plain qt items)).2 (encodedSize_toValue_lt h hv hlen)
  refine ⟨hn, hlen, ?_⟩
  rw [toValue, QCborValue.arrange_map] at hread
  have hd : QCborMap.Distinct [(.string "devices", .array (items.map fun item => .map (item.toMap qt))),
      (.string "version", .integer 1)] := by simp [QCborMap.Distinct]
  refine ⟨_, items.map fun item => .map ((item.toMap qt).arrange sort), hread, ?_, ?_, ?_⟩
  · exact value_arrange_of hsort hd (by simp) (by simp)
  · rw [QCborMap.value_arrange hsort hd]
    simp [Function.comp_def]
  · rw [List.forall₂_map_right_iff]
    exact List.forall₂_same.mpr fun item hm =>
      ⟨hv item hm, _, rfl, toMap_storedAs h (hv item hm) hsort⟩

end Writer

end RpiDashboard.Telemetry
