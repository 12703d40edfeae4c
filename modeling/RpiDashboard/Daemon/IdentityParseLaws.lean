import RpiDashboard.Daemon.IdentityLaws

/-! Which identity files are read, and as which id: a pair of characters is read as far as it has
digits, so that only its first one must be a digit. -/

namespace RpiDashboard.Daemon

/-- What is left without the blanks around and the dashes. -/
def bare (contents : StdString) : StdString := (trim contents).filter (· ≠ 0x2d)

/-- The hexadecimal digits of the id, in either case. -/
def DigitsOf (id : Uuid) (hex : StdString) : Prop := hex.map tolower = id.toList.flatMap hexPair

/-- The first characters of the pairs. -/
def firsts : StdString → StdString
  | a :: _ :: hex => a :: firsts hex
  | _ => []

/-- The second characters of the pairs. -/
def seconds : StdString → StdString
  | _ :: b :: hex => b :: seconds hex
  | _ => []

/-- A start that reads this returns an id just if what is left are its digits; otherwise it fails,
and it leaves the files as they are. -/
def ParsedExactly (contents : StdString) : Prop :=
  ∀ (files : Files) (start : Start), files.read start.reading = some contents → 0 < start.steps →
    (∀ id, (files.call start).2 = some (.ok id) ↔ DigitsOf id (bare contents)) ∧
      ((∀ id, ¬ DigitsOf id (bare contents)) → ∃ error, (files.call start).2 = some (.error error)) ∧
        files.step start = files

section Pairs

variable {a b : UInt8} {hex : StdString} {bytes : List UInt8}

theorem isDigitOf_tolower (c : UInt8) : isDigitOf 16 (tolower c) = isDigitOf 16 c := by
  revert c
  exact forall_byte (by decide +kernel)

theorem digitOf_spec (h : isDigitOf 16 a) :
    digitOf a < 16 ∧ hexDigit (UInt8.ofNat (digitOf a)) = tolower a := by
  have hall : ∀ c : UInt8, isDigitOf 16 c →
      digitOf c < 16 ∧ hexDigit (UInt8.ofNat (digitOf c)) = tolower c :=
    forall_byte (by decide +kernel)
  exact hall a h

theorem all_hexPair (byte : UInt8) : (hexPair byte).all (isDigitOf 16) := by
  revert byte
  exact forall_byte (by decide +kernel)

theorem isDigitOf_hexPair {byte c : UInt8} (h : c ∈ hexPair byte) : isDigitOf 16 c :=
  List.all_eq_true.mp (all_hexPair byte) c h

theorem hexPair_ofNat : ∀ n < 256,
    hexPair (UInt8.ofNat n) = [hexDigit (UInt8.ofNat (n / 16)), hexDigit (UInt8.ofNat (n % 16))] := by
  decide +kernel

theorem fromChars_digits (ha : isDigitOf 16 a) (hb : isDigitOf 16 b) :
    fromChars [a, b] = some (digitOf a * 16 + digitOf b) := by
  simp [fromChars, List.takeWhile, ha, hb, numeralOf]

theorem hexPair_digits (ha : isDigitOf 16 a) (hb : isDigitOf 16 b) :
    hexPair (UInt8.ofNat (digitOf a * 16 + digitOf b)) = [tolower a, tolower b] := by
  obtain ⟨ha, hlowerA⟩ := digitOf_spec ha
  obtain ⟨hb, hlowerB⟩ := digitOf_spec hb
  rw [hexPair_ofNat _ (by omega), show (digitOf a * 16 + digitOf b) / 16 = digitOf a by omega,
    show (digitOf a * 16 + digitOf b) % 16 = digitOf b by omega, hlowerA, hlowerB]

/-- A pair is read just if its first character is a digit. -/
theorem isSome_fromChars : (fromChars [a, b]).isSome ↔ isDigitOf 16 a := by
  cases ha : isDigitOf 16 a <;> cases hb : isDigitOf 16 b <;>
    simp [fromChars, List.takeWhile, ha, hb]

theorem isSome_identityBytes : (identityBytes hex).isSome ↔ ∀ c ∈ firsts hex, isDigitOf 16 c := by
  induction hex using identityBytes.induct with
  | case1 a b hex ih =>
    rw [firsts, List.forall_mem_cons, ← ih, ← isSome_fromChars (b := b), identityBytes]
    cases fromChars [a, b] <;> cases identityBytes hex <;> simp
  | case2 hex hshort =>
    rw [identityBytes, firsts]
    · simp
    all_goals exact hshort

theorem mem_of_even {n : Nat} {c : UInt8} (hlength : hex.length = 2 * n) (h : c ∈ hex) :
    c ∈ firsts hex ∨ c ∈ seconds hex := by
  induction hex using firsts.induct generalizing n with
  | case1 a b hex ih =>
    rw [firsts, seconds]
    rcases List.mem_cons.mp h with rfl | h
    · exact .inl List.mem_cons_self
    · rcases List.mem_cons.mp h with rfl | h
      · exact .inr List.mem_cons_self
      · have hrest : hex.length = 2 * (n - 1) := by
          simp only [List.length_cons] at hlength
          omega
        exact (ih hrest h).imp (List.mem_cons_of_mem _) (List.mem_cons_of_mem _)
  | case2 hex hshort =>
    match hex, hshort with
    | [], _ => cases h
    | [a], _ => simp at hlength; omega
    | a :: b :: hex, hshort => exact absurd rfl (hshort a b hex)

theorem mem_of_mem_seconds {c : UInt8} (h : c ∈ seconds hex) : c ∈ hex := by
  induction hex using seconds.induct with
  | case1 a b hex ih =>
    rw [seconds] at h
    rcases List.mem_cons.mp h with rfl | h
    · simp
    · exact List.mem_cons_of_mem _ (List.mem_cons_of_mem _ (ih h))
  | case2 hex hshort =>
    rw [seconds] at h
    · cases h
    · exact hshort

end Pairs

section Parse

variable {hex contents : StdString} {bytes : List UInt8} {id : Uuid}

/-- Pairs of digits are read as the bytes that they are the digits of. -/
theorem identityBytes_digits {n : Nat} (hlength : hex.length = 2 * n)
    (hdigits : ∀ c ∈ hex, isDigitOf 16 c) :
    ∃ bytes, identityBytes hex = some bytes ∧ hex.map tolower = bytes.flatMap hexPair := by
  induction hex using identityBytes.induct generalizing n with
  | case1 a b hex ih =>
    obtain ⟨ha, hdigits⟩ := List.forall_mem_cons.mp hdigits
    obtain ⟨hb, hdigits⟩ := List.forall_mem_cons.mp hdigits
    have hrest : hex.length = 2 * (n - 1) := by
      simp only [List.length_cons] at hlength
      omega
    obtain ⟨bytes, hbytes, hmap⟩ := ih hrest hdigits
    refine ⟨UInt8.ofNat (digitOf a * 16 + digitOf b) :: bytes, ?_, ?_⟩
    · rw [identityBytes, fromChars_digits ha hb, hbytes]
      rfl
    · rw [List.flatMap_cons, hexPair_digits ha hb, ← hmap]
      rfl
  | case2 hex hshort =>
    rcases hex with _ | ⟨a, _ | ⟨b, hex⟩⟩
    · exact ⟨[], rfl, rfl⟩
    · simp at hlength
      omega
    · exact absurd rfl (hshort a b hex)

theorem DigitsOf.digits (h : DigitsOf id hex) : ∀ c ∈ hex, isDigitOf 16 c := by
  intro c hc
  have hmap : tolower c ∈ id.toList.flatMap hexPair := h ▸ List.mem_map_of_mem hc
  obtain ⟨byte, -, hbyte⟩ := List.mem_flatMap.mp hmap
  rw [← isDigitOf_tolower]
  exact isDigitOf_hexPair hbyte

theorem DigitsOf.length (h : DigitsOf id hex) : hex.length = 32 := by
  have hlength := congrArg List.length h
  simpa [List.length_flatMap, hexPair] using hlength

theorem parseIdentity_eq_some {s : StdString} : parseIdentity s = some id ↔
    (s.filter (· ≠ 0x2d)).length = 32 ∧ identityBytes (s.filter (· ≠ 0x2d)) = some id.toList := by
  rw [parseIdentity]
  generalize s.filter (· ≠ 0x2d) = hex
  split
  case isTrue hne => simp [hne]
  case isFalse heq =>
    rw [not_not] at heq
    cases identityBytes hex with
    | none => simp
    | some bytes =>
      simp only [heq, true_and, Option.some.injEq]
      constructor
      · intro h
        split at h
        case isTrue hsize =>
          cases h
          simp
        case isFalse => cases h
      · rintro rfl
        rw [dif_pos (by simp)]
        exact congrArg some (Vector.toArray_inj.mp Array.toArray_toList)

theorem length_identityBytes {n : Nat} (hlength : hex.length = 2 * n)
    (h : identityBytes hex = some bytes) : bytes.length = n := by
  induction hex using identityBytes.induct generalizing n bytes with
  | case1 a b hex ih =>
    rw [identityBytes] at h
    obtain ⟨v, -, h⟩ := Option.bind_eq_some_iff.mp h
    obtain ⟨rest, hrest, h⟩ := Option.bind_eq_some_iff.mp h
    cases h
    simp only [List.length_cons] at hlength ⊢
    rw [ih (n := n - 1) (by omega) hrest]
    omega
  | case2 hex hshort =>
    rcases hex with _ | ⟨a, _ | ⟨b, hex⟩⟩
    · cases h
      simp only [List.length_nil] at hlength ⊢
      omega
    · simp at hlength
      omega
    · exact absurd rfl (hshort a b hex)

theorem exists_parseIdentity {s : StdString} (hlength : (s.filter (· ≠ 0x2d)).length = 32)
    (hfirsts : ∀ c ∈ firsts (s.filter (· ≠ 0x2d)), isDigitOf 16 c) :
    ∃ id, parseIdentity s = some id := by
  obtain ⟨bytes, hbytes⟩ := Option.isSome_iff_exists.mp (isSome_identityBytes.mpr hfirsts)
  have hsize : bytes.toArray.size = 16 := by
    rw [List.size_toArray, length_identityBytes (n := 16) hlength hbytes]
  exact ⟨⟨bytes.toArray, hsize⟩, parseIdentity_eq_some.mpr ⟨hlength, by simpa using hbytes⟩⟩

/-- Where the digits come in pairs, the id is read just if they are its digits. -/
theorem parseIdentity_iff_digitsOf
    (h : (bare contents).length = 32 → (∀ c ∈ firsts (bare contents), isDigitOf 16 c) →
      ∀ c ∈ seconds (bare contents), isDigitOf 16 c) :
    parseIdentity (trim contents) = some id ↔ DigitsOf id (bare contents) := by
  rw [parseIdentity_eq_some]
  change (bare contents).length = 32 ∧ identityBytes (bare contents) = _ ↔ _
  constructor
  · rintro ⟨hlength, hbytes⟩
    have hfirsts := isSome_identityBytes.mp (Option.isSome_iff_exists.mpr ⟨_, hbytes⟩)
    have hdigits : ∀ c ∈ bare contents, isDigitOf 16 c := fun c hc =>
      (mem_of_even (n := 16) hlength hc).elim (hfirsts c) (h hlength hfirsts c)
    obtain ⟨bytes, hread, hmap⟩ := identityBytes_digits (n := 16) hlength hdigits
    cases hread.symm.trans hbytes
    exact hmap
  · intro hid
    refine ⟨hid.length, ?_⟩
    obtain ⟨bytes, hread, hmap⟩ := identityBytes_digits (n := 16) hid.length hid.digits
    have hbytes : some bytes = some id.toList := by
      rw [← identityBytes_flatMap bytes, ← identityBytes_flatMap id.toList, ← hmap, ← hid]
    rw [hread, hbytes]

end Parse

section Load

variable {files : Files} {start : Start} {contents : StdString}

/-- What is there and not blank decides the start, and nothing is written. -/
theorem call_of_read (hread : files.read start.reading = some contents)
    (hblank : trim contents ≠ []) (hsteps : 0 < start.steps) :
    files.call start = (files, some (match parseIdentity (trim contents) with
      | none => .error (.runtime "invalid persisted device identity")
      | some id => .ok id)) := by
  obtain ⟨steps, hsucc⟩ := Nat.exists_eq_succ_of_ne_zero (Nat.pos_iff_ne_zero.mp hsteps)
  rw [Files.call, Start.loadOrCreateIdentity, hsucc, Program.stop]
  simp only [hread, hblank, ne_eq, not_false_eq_true, if_true]
  cases parseIdentity (trim contents) <;> cases steps <;> rfl

theorem parsedExactly_of_pairs (hblank : trim contents ≠ [])
    (h : (bare contents).length = 32 → (∀ c ∈ firsts (bare contents), isDigitOf 16 c) →
      ∀ c ∈ seconds (bare contents), isDigitOf 16 c) : ParsedExactly contents := by
  intro files start hread hsteps
  have hparse (id : Uuid) : parseIdentity (trim contents) = some id ↔ DigitsOf id (bare contents) :=
    parseIdentity_iff_digitsOf h
  rw [Files.step, call_of_read hread hblank hsteps]
  cases hid : parseIdentity (trim contents) with
  | none => exact ⟨fun id => by simp [← hparse, hid], fun _ => ⟨_, rfl⟩, rfl⟩
  | some found =>
    refine ⟨fun id => by simp [← hparse, hid], fun hnone => ?_, rfl⟩
    exact absurd ((hparse found).mp hid) (hnone found)

theorem ParsedExactly.digitsOf {id : Uuid} (h : ParsedExactly contents) (hblank : trim contents ≠ [])
    (hid : parseIdentity (trim contents) = some id) : DigitsOf id (bare contents) := by
  let files : Files := { identity := contents }
  let start : Start := { pid := 1, random := none }
  have hread : files.read start.reading = some contents := rfl
  have hcall : files.call start = (files, some (.ok id)) := by
    rw [call_of_read hread hblank (by decide), hid]
  exact ((h files start hread (by decide)).1 id).mp (congrArg Prod.snd hcall)

theorem bare_uuidString (id : Uuid) : bare (uuidString id) = id.toList.flatMap hexPair := by
  have hnone : ∀ c ∈ ([] : StdString), blank c := by simp
  have htrim : trim (uuidString id) = uuidString id := by
    simpa using trim_append (fun _ => mem_uuidString) hnone
  rw [bare, htrim, filter_uuidString]

theorem digitsOf_uuidString (id : Uuid) : DigitsOf id (bare (uuidString id)) := by
  have hlower : ∀ n < 256, (hexPair (UInt8.ofNat n)).map tolower = hexPair (UInt8.ofNat n) := by
    decide +kernel
  rw [bare_uuidString, DigitsOf, List.map_flatMap]
  congr 1
  funext byte
  simpa using hlower byte.toNat byte.toNat_lt

theorem parsedExactly_uuidString (id : Uuid) : ParsedExactly (uuidString id) := by
  have hdigits := digitsOf_uuidString id
  refine parsedExactly_of_pairs (fun hblank => ?_) fun _ _ c hc => ?_
  · have hlength := hdigits.length
    rw [bare, hblank] at hlength
    cases hlength
  · exact hdigits.digits c (mem_of_mem_seconds hc)

/-- A file that is not blank is parsed exactly, unless what is left are 32 characters of which the
first one of each pair is a digit and some second one is not; the text of an id always is. -/
theorem parsed_exactly_iff (contents : StdString) (hblank : trim contents ≠ []) :
    (ParsedExactly contents ↔
      ((bare contents).length = 32 → (∀ c ∈ firsts (bare contents), isDigitOf 16 c) →
        ∀ c ∈ seconds (bare contents), isDigitOf 16 c)) ∧
      ∀ id, ParsedExactly (uuidString id) ∧ DigitsOf id (bare (uuidString id)) := by
  refine ⟨⟨fun hexact hlength hfirsts => ?_, parsedExactly_of_pairs hblank⟩,
    fun id => ⟨parsedExactly_uuidString id, digitsOf_uuidString id⟩⟩
  obtain ⟨id, hid⟩ := exists_parseIdentity hlength hfirsts
  exact fun c hc => (hexact.digitsOf hblank hid).digits c (mem_of_mem_seconds hc)

/-- The first digit pair of an id has lost its second digit. -/
def corrupted : StdString := lit "1g111111-1111-1111-1111-111111111111\n"

theorem corrupted_accepted : trim corrupted ≠ [] ∧ ¬ ParsedExactly corrupted := by
  have hblank : trim corrupted ≠ [] := by decide
  refine ⟨hblank, fun hexact => ?_⟩
  obtain ⟨id, hid⟩ : ∃ id, parseIdentity (trim corrupted) = some id :=
    Option.isSome_iff_exists.mp (by decide +kernel)
  exact absurd ((hexact.digitsOf hblank hid).digits 0x67 (by decide)) (by decide)

theorem parsed_exactly_sample :
    (ParsedExactly corrupted ↔
      ((bare corrupted).length = 32 → (∀ c ∈ firsts (bare corrupted), isDigitOf 16 c) →
        ∀ c ∈ seconds (bare corrupted), isDigitOf 16 c)) ∧
      ∀ id, ParsedExactly (uuidString id) ∧ DigitsOf id (bare (uuidString id)) :=
  parsed_exactly_iff corrupted (by decide)

end Load

end RpiDashboard.Daemon
