import RpiDashboard.Daemon.TextLaws
import RpiDashboard.Data.Strip
import RpiDashboard.Sysmetrics.LinuxSysMetricsCollector

/-! Laws of what the parts of `collect` share: the tables by name and the fields of a line. -/

namespace RpiDashboard.Sysmetrics

open Daemon Qt

section Hash

variable {α : Type} {hash order : List (QString × α)} {key key' : QString} {value : α}

theorem hashValue_insert :
    hashValue (hashInsert hash key value) key' =
      if key = key' then some value else hashValue hash key' := by
  rw [hashValue, hashInsert, Keyed.find_cons]
  split
  case isTrue => rfl
  case isFalse hne => rw [Keyed.find_erase_of_ne (Ne.symm hne), hashValue]

theorem nodup_hashInsert (h : (hash.map Prod.fst).Nodup) :
    ((hashInsert hash key value).map Prod.fst).Nodup := by
  rw [hashInsert, List.map_cons, Keyed.map_key_erase]
  exact List.nodup_cons.mpr ⟨h.not_mem_erase, h.erase key⟩

theorem hashValue_perm (h : (hash.map Prod.fst).Nodup) (hperm : order.Perm hash) :
    hashValue order key = hashValue hash key := by
  rw [hashValue, hashValue, Keyed.find_perm h hperm]

end Hash

section Fields

variable {bytes f : QByteArray} {fs : List QByteArray}

theorem not_mem_word {word : QByteArray} (h : word ∈ words bytes) : (0x20 : UInt8) ∉ word := by
  intro hspace
  have hword := forall_mem_words bytes word h 0x20 hspace
  exact absurd hword (by decide)

theorem split_simplified (h : words bytes ≠ []) :
    QByteArray.split (QByteArray.simplified bytes) 0x20 = words bytes :=
  List.splitOn_intercalate 0x20 (fun _ hword => not_mem_word hword) h

theorem split_blank (h : words bytes = []) :
    QByteArray.split (QByteArray.simplified bytes) 0x20 = [[]] := by
  have hsimplified : QByteArray.simplified bytes = [0x20].intercalate (words bytes) := rfl
  rw [hsimplified, h]
  rfl

theorem trimmed_of_forall (h : ∀ c ∈ bytes, isspace c = false) :
    QByteArray.trimmed bytes = bytes :=
  strip_of_bare (bare_of_forall h)

theorem fromLatin1_injective : Function.Injective fromLatin1 := by
  have hchar : Function.Injective fun c : UInt8 => Char.ofNat c.toNat := by
    intro c d h
    have hvalid : ∀ n < 256, (Char.ofNat n).toNat = n := by decide +kernel
    have hnat := congrArg Char.toNat h
    rw [hvalid _ c.toNat_lt, hvalid _ d.toNat_lt] at hnat
    exact UInt8.toNat_inj.mp hnat
  intro a b h
  exact hchar.list_map (String.ofList_injective h)

end Fields

end RpiDashboard.Sysmetrics
