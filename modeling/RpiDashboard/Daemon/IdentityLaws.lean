import Mathlib.Data.List.TakeWhile
import RpiDashboard.Daemon.Identity
import RpiDashboard.Data.Strip

/-! Laws of the identity: an id that has been returned stays, as long as the file that holds it
is not taken for an empty one. -/

namespace RpiDashboard.Daemon

section Trim

variable {s t contents : StdString}

theorem trim_eq_nil_iff : trim s = [] ↔ ∀ c ∈ s, blank c := strip_eq_nil_iff

/-- Blanks after a text without any. -/
theorem trim_append {blanks : StdString} (hs : ∀ c ∈ s, blank c = false)
    (hb : ∀ c ∈ blanks, blank c) : trim (s ++ blanks) = s := by
  have hnone : ∀ c ∈ ([] : StdString), blank c := by simp
  exact strip_append hnone hb (bare_of_forall hs)

/-- What is left of the front of a text is the front of what is left of it. -/
theorem trim_front (h : s <+: t) : trim s <+: t.dropWhile blank := by
  have hdrop : s.dropWhile blank <+: t.dropWhile blank := by
    obtain ⟨rest, rfl⟩ := h
    rw [List.dropWhile_append]
    split
    case isTrue hempty =>
      rw [List.isEmpty_iff.mp hempty]
      exact List.nil_prefix
    case isFalse => exact List.prefix_append _ _
  have hsuffix : (s.dropWhile blank).reverse.dropWhile blank <:+ (s.dropWhile blank).reverse :=
    List.dropWhile_suffix _
  have htrim : trim s <+: s.dropWhile blank := by
    simpa [trim] using List.reverse_prefix.mpr hsuffix
  exact htrim.trans hdrop

/-- Two fronts of one text give the same id, if they give one. -/
theorem parseIdentity_unique {a b : Uuid} (hs : s <+: contents) (ht : t <+: contents)
    (ha : parseIdentity (trim s) = some a) (hb : parseIdentity (trim t) = some b) : a = b := by
  have hlength {u : StdString} {id : Uuid} (hid : parseIdentity (trim u) = some id) :
      ((trim u).filter (· ≠ 0x2d)).length = 32 := by
    by_contra hn
    rw [parseIdentity, if_pos hn] at hid
    cases hid
  have hhex : (trim s).filter (· ≠ 0x2d) = (trim t).filter (· ≠ 0x2d) := by
    refine (List.prefix_of_prefix_length_le ((trim_front hs).filter _)
      ((trim_front ht).filter _) ?_).eq_of_length ?_
    · rw [hlength ha, hlength hb]
    · rw [hlength ha, hlength hb]
  have hparse : parseIdentity (trim s) = parseIdentity (trim t) := by
    unfold parseIdentity
    rw [hhex]
  exact Option.some.inj (ha.symm.trans (hparse.trans hb))

end Trim

section Hex

theorem hexPair_spec (byte : UInt8) : fromChars (hexPair byte) = some byte.toNat ∧
    (hexPair byte).all (fun c => !blank c && c ≠ 0x2d) := by
  revert byte
  exact forall_byte (by decide +kernel)

theorem fromChars_hexPair (byte : UInt8) : fromChars (hexPair byte) = some byte.toNat :=
  (hexPair_spec byte).1

theorem mem_hexPair {byte c : UInt8} (h : c ∈ hexPair byte) : blank c = false ∧ c ≠ 0x2d := by
  simpa using List.all_eq_true.mp (hexPair_spec byte).2 c h

theorem identityBytes_flatMap (bytes : List UInt8) :
    identityBytes (bytes.flatMap hexPair) = some bytes := by
  induction bytes with
  | nil => rfl
  | cons byte bytes ih =>
    have hpair : fromChars [hexDigit (byte >>> 4), hexDigit (byte &&& 15)] = some byte.toNat :=
      fromChars_hexPair byte
    rw [List.flatMap_cons, hexPair, List.cons_append, List.cons_append, List.nil_append,
      identityBytes, hpair, ih]
    simp

theorem mem_uuidString {id : Uuid} {c : UInt8} (h : c ∈ uuidString id) : blank c = false := by
  obtain ⟨⟨byte, i⟩, -, hc⟩ := List.mem_flatMap.mp h
  rcases List.mem_append.mp hc with hc | hc
  · split at hc
    · obtain rfl : c = 0x2d := List.mem_singleton.mp hc
      rfl
    · cases hc
  · exact (mem_hexPair hc).1

theorem filter_uuidString (id : Uuid) :
    (uuidString id).filter (· ≠ 0x2d) = id.toList.flatMap hexPair := by
  have hfilter (bytes : List UInt8) (n : Nat) :
      ((bytes.zipIdx n).flatMap fun entry =>
        (if entry.2 = 4 ∨ entry.2 = 6 ∨ entry.2 = 8 ∨ entry.2 = 10 then lit "-" else []) ++
          hexPair entry.1).filter (· ≠ 0x2d) = bytes.flatMap hexPair := by
    induction bytes generalizing n with
    | nil => rfl
    | cons byte bytes ih =>
      have hdash : (if n = 4 ∨ n = 6 ∨ n = 8 ∨ n = 10 then lit "-" else []).filter
          (fun c : UInt8 => c ≠ 0x2d) = [] := by
        split <;> rfl
      have hpair : (hexPair byte).filter (· ≠ 0x2d) = hexPair byte :=
        List.filter_eq_self.mpr fun c hc => by simpa using (mem_hexPair hc).2
      rw [List.zipIdx_cons, List.flatMap_cons, List.filter_append, List.filter_append, hdash, hpair,
        ih, List.nil_append, List.flatMap_cons]
  exact hfilter id.toList 0

/-- An id reads back from the line that is written for it. -/
theorem parseIdentity_uuidString (id : Uuid) :
    parseIdentity (trim (uuidString id ++ lit "\n")) = some id := by
  have htrim : trim (uuidString id ++ lit "\n") = uuidString id :=
    trim_append (fun _ => mem_uuidString) (List.all_eq_true.mp (by decide))
  have hlength : (id.toList.flatMap hexPair).length = 32 := by
    simp [List.length_flatMap, hexPair]
  rw [htrim, parseIdentity, filter_uuidString]
  simp only [hlength, identityBytes_flatMap, List.size_toArray, Vector.length_toList, ne_eq,
    not_true_eq_false, if_false, dite_true]
  exact congrArg some (Vector.toArray_inj.mp Array.toArray_toList)

end Hex

section Call

variable {files : Files} {start : Start} {id : Uuid}

/-- What is read is the front of what is there. -/
theorem read_front {reading : Reading} {contents : StdString}
    (h : files.read reading = some contents) : contents <+: files.identity.getD [] := by
  cases reading with
  | whole =>
    obtain rfl := Option.some.inj h
    exact List.prefix_refl _
  | closed =>
    obtain rfl := Option.some.inj h
    exact List.nil_prefix
  | short bytes =>
    obtain rfl := Option.some.inj h
    exact List.take_prefix _ _
  | thrown =>
    cases hi : files.identity with
    | none =>
      obtain rfl : [] = contents := by simpa [Files.read, hi] using h
      exact List.nil_prefix
    | some identity => simp [Files.read, hi] at h

/-- What a start can have done, wherever it has stopped. -/
inductive Did (files : Files) (start : Start) (after : Files) :
    Option (Except IdentityError Uuid) → Prop
  | nothing : after.identity = files.identity → Did files start after none
  | failed (error : IdentityError) : after.identity = files.identity →
    Did files start after (some (.error error))
  | loaded (contents : StdString) (id : Uuid) : after.identity = files.identity →
    files.read start.reading = some contents → trim contents ≠ [] →
    parseIdentity (trim contents) = some id → Did files start after (some (.ok id))
  /-- The new id may not have been returned any more. -/
  | created (contents : StdString) (id : Uuid) {result : Option (Except IdentityError Uuid)} :
    after.identity = some (uuidString id ++ lit "\n") →
    files.read start.reading = some contents → trim contents = [] →
    result = none ∨ result = some (.ok id) → Did files start after result

theorem always_giveUp {before : Files} (h : files.identity = before.identity) :
    start.giveUp.Always (Did before start) files := by
  refine ⟨.nothing h, .nothing h, .failed _ ?_⟩
  dsimp only
  split <;> exact h

theorem always_persistIdentity {contents : StdString}
    (hread : files.read start.reading = some contents) (hblank : trim contents = []) :
    (start.persistIdentity id).Always (Did files start) files := by
  unfold Start.persistIdentity
  refine Program.always_attempt (.nothing rfl) (fun _ => ?_) (always_giveUp rfl)
  refine ⟨.nothing rfl, ?_⟩
  split
  case isTrue => exact always_giveUp rfl
  case isFalse hwritten =>
    refine Program.always_attempt (.nothing rfl) (fun _ => ?_) (always_giveUp rfl)
    refine Program.always_attempt (.nothing rfl) (fun _ => ?_) (always_giveUp rfl)
    refine Program.always_attempt (.nothing rfl) (fun _ => ?_) (always_giveUp rfl)
    have hrenamed : (((files.write start.pid []).write start.pid
        ((uuidString id ++ lit "\n").take start.written)).rename start.pid).identity =
          some (uuidString id ++ lit "\n") := by
      rw [List.take_of_length_le (Nat.not_lt.mp hwritten)]
      simp [Files.rename, Files.temporary, Files.write, Keyed.find_cons]
    exact ⟨.created contents id hrenamed hread hblank (Or.inl rfl),
      .created contents id hrenamed hread hblank (Or.inr rfl)⟩

theorem always_createIdentity {contents : StdString}
    (hread : files.read start.reading = some contents) (hblank : trim contents = []) :
    start.createIdentity.Always (Did files start) files := by
  refine Program.always_attempt (.nothing rfl) (fun _ => ⟨.nothing rfl, ?_⟩) (.failed _ rfl)
  cases start.random with
  | none => exact .failed _ rfl
  | some bytes => exact always_persistIdentity hread hblank

theorem always_loadOrCreateIdentity :
    start.loadOrCreateIdentity.Always (Did files start) files := by
  refine ⟨.nothing rfl, ?_⟩
  dsimp only
  cases hread : files.read start.reading with
  | none => exact .failed _ rfl
  | some contents =>
    dsimp only
    split
    case isTrue hne =>
      cases hid : parseIdentity (trim contents) with
      | none => exact .failed _ rfl
      | some id => exact .loaded contents id rfl hread hne hid
    case isFalse heq => exact always_createIdentity hread (not_not.mp heq)

theorem call_did (files : Files) (start : Start) :
    Did files start (files.step start) (files.call start).2 :=
  always_loadOrCreateIdentity.stop start.steps

/-- A start that fails leaves the identity as it was. -/
theorem identity_of_failed {error : IdentityError} (h : (files.call start).2 = some (.error error)) :
    (files.step start).identity = files.identity := by
  have hdid := call_did files start
  rw [h] at hdid
  cases hdid with
  | failed error hidentity => exact hidentity
  | created contents id _ _ _ hresult => simp at hresult

end Call

section Run

variable {files : Files} {start : Start} {id : Uuid}

/-- The file holds the id: some front of it reads as the id. -/
def Holds (id : Uuid) (files : Files) : Prop :=
  ∃ contents s, files.identity = some contents ∧ s <+: contents ∧ trim s ≠ [] ∧
    parseIdentity (trim s) = some id

/-- The identity file is opened and read if it is there and not blank, so far at least that what
is read is not blank. -/
def Files.Reads (files : Files) (start : Start) : Prop :=
  ∀ contents ∈ files.read start.reading, trim contents = [] → trim (files.identity.getD []) = []

theorem mem_returned {x : Uuid} : x ∈ files.returned start ↔ (files.call start).2 = some (.ok x) := by
  unfold Files.returned
  split
  case h_1 y hy => simp [hy, eq_comm]
  case h_2 hn => simpa using fun hx => hn x hx

theorem trim_ne_nil_of_front {s t : StdString} (h : s <+: t) (hs : trim s ≠ []) : trim t ≠ [] := by
  rw [ne_eq, trim_eq_nil_iff] at hs ⊢
  exact fun ht => hs fun c hc => ht c (h.subset hc)

/-- An id that is returned is held from then on. -/
theorem holds_of_returned (h : id ∈ files.returned start) : Holds id (files.step start) := by
  have hdid := call_did files start
  rw [mem_returned.mp h] at hdid
  cases hdid with
  | loaded contents id hidentity hread hne hparse =>
    have hprefix := read_front hread
    cases hi : files.identity with
    | none =>
      rw [hi, Option.getD_none, List.prefix_nil] at hprefix
      subst hprefix
      exact absurd rfl hne
    | some identity =>
      rw [hi, Option.getD_some] at hprefix
      exact ⟨identity, contents, hidentity.trans hi, hprefix, hne, hparse⟩
  | created contents id' hidentity _ _ hresult =>
    obtain rfl : id = id' := by simpa using hresult
    refine ⟨_, _, hidentity, List.prefix_refl _, fun hn => ?_, parseIdentity_uuidString id⟩
    have hparse := parseIdentity_uuidString id
    rw [hn] at hparse
    cases hparse

/-- While it is held and read, no other is returned or takes its place. -/
theorem Holds.step (h : Holds id files) (hr : Files.Reads files start) :
    Holds id (files.step start) ∧ ∀ x ∈ files.returned start, x = id := by
  have hdid := call_did files start
  have hsame (hidentity : (files.step start).identity = files.identity) :
      Holds id (files.step start) := by
    unfold Holds
    rwa [hidentity]
  generalize hresult : (files.call start).2 = result at hdid
  cases hdid with
  | nothing hidentity =>
    exact ⟨hsame hidentity, fun x hx => by simp [mem_returned, hresult] at hx⟩
  | failed error hidentity =>
    exact ⟨hsame hidentity, fun x hx => by simp [mem_returned, hresult] at hx⟩
  | loaded contents loaded hidentity hread _ hparsed =>
    refine ⟨hsame hidentity, fun x hx => ?_⟩
    obtain rfl : loaded = x := by simpa [mem_returned, hresult] using hx
    obtain ⟨identity, s, hi, hs, -, hparse⟩ := h
    have hprefix := read_front hread
    rw [hi, Option.getD_some] at hprefix
    exact parseIdentity_unique hprefix hs hparsed hparse
  | created contents created _ hread hblank _ =>
    obtain ⟨identity, s, hi, hs, hne, -⟩ := h
    have htrim := hr contents hread hblank
    rw [hi, Option.getD_some] at htrim
    exact absurd htrim (trim_ne_nil_of_front hs hne)

theorem all_returned (h : Holds id files) {starts : List Start}
    (hr : Throughout Files.step Files.Reads files starts) :
    ∀ x ∈ emitted Files.step Files.returned files starts, x = id := by
  induction starts generalizing files with
  | nil => simp [emitted]
  | cons start starts ih =>
    obtain ⟨hheld, hreturned⟩ := h.step hr.1
    exact List.forall_mem_append.mpr ⟨hreturned, ih hheld hr.2⟩

/-- Along every sequence of starts in which an identity that is there is not read as blank, all
ids that are returned are one, and a start that fails leaves the identity as it was. -/
theorem stable_identity {starts : List Start} (hr : Throughout Files.step Files.Reads files starts) :
    (emitted Files.step Files.returned files starts).Pairwise (· = ·) ∧
      Throughout Files.step (fun files start => ∀ error,
        (files.call start).2 = some (.error error) →
          (files.step start).identity = files.identity) files starts := by
  refine ⟨?_, throughout_of_forall fun _ _ _ _ h => identity_of_failed h⟩
  induction starts generalizing files with
  | nil => exact List.Pairwise.nil
  | cons start starts ih =>
    refine List.pairwise_append.mpr ⟨?_, ih hr.2, fun x hx y hy => ?_⟩
    · unfold Files.returned
      split
      · exact List.pairwise_singleton _ _
      · exact List.Pairwise.nil
    · exact (all_returned (holds_of_returned hx) hr.2 y hy).symm

def firstId : Uuid := Vector.replicate 16 0x11
def secondId : Uuid := Vector.replicate 16 0x22

instance Files.Reads.decidable (files : Files) (start : Start) : Decidable (Files.Reads files start) :=
  inferInstanceAs (Decidable (∀ contents ∈ files.read start.reading, trim contents = [] →
    trim (files.identity.getD []) = []))

def twoStarts : List Start := [{ pid := 1, random := firstId }, { pid := 2, random := secondId }]

theorem stable_identity_sample :
    (emitted Files.step Files.returned {} twoStarts).Pairwise (· = ·) ∧
      Throughout Files.step (fun files start => ∀ error,
        (files.call start).2 = some (.error error) →
          (files.step start).identity = files.identity) {} twoStarts :=
  stable_identity (by decide +kernel)

/-- The second start cannot open the file of the first. -/
def replaced : List Start :=
  [{ pid := 1, random := firstId }, { pid := 2, random := secondId, reading := .closed }]

theorem replaced_identity :
    ¬ (emitted Files.step Files.returned {} replaced).Pairwise (· = ·) := by
  decide +kernel

end Run


end RpiDashboard.Daemon
