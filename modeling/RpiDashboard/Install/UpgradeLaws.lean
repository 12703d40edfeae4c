import RpiDashboard.Install.Upgrade

/-! What a failed upgrade of the daemon leaves of the installation before. -/

namespace RpiDashboard.Install

variable {File : Type} {package : Package File} {before host : Host File}

/-- The runtime is as it was before. -/
structure Restored (before host : Host File) : Prop where
  binary : host.binary = before.binary
  unit : host.unit = before.unit
  service : host.service = before.service

/-- The files of the package are the ones that were installed. -/
def SameFiles (package : Package File) (before : Host File) : Prop :=
  before.binary = some package.binary ∧ before.unit = some package.unit

namespace Results

variable {results : Results}

theorem call_andThen {site : Site} {act : Host File → Host File} {q : Script (Host File)}
    (h : results.status site = 0) :
    Script.andThen (results.call site act) q host = q (act host) := by
  rw [call, Script.call_andThen h, if_pos h]

theorem call_andThen_of_fails {site : Site} {act : Host File → Host File} {q : Script (Host File)}
    (h : results.status site ≠ 0) :
    Script.andThen (results.call site act) q host = (host, some (results.status site)) := by
  rw [call, Script.call_andThen_of_fails h, if_neg h]

theorem systemctl_andThen {site : Site} {act : Service → Service} {q : Script (Host File)}
    (h : results.status site = 0) : Script.andThen (results.systemctl site act) q host =
      q { host with service := act host.service } := by
  rw [systemctl, Script.call_andThen h, if_pos h]

theorem systemctl_andThen_of_fails {site : Site} {act : Service → Service}
    {q : Script (Host File)} (h : results.status site ≠ 0) :
    Script.andThen (results.systemctl site act) q host =
      ({ host with service := results.leaves site }, some (results.status site)) := by
  rw [systemctl, Script.call_andThen_of_fails h, if_neg h]

theorem call_keeps {site : Site} {act : Host File → Host File}
    (hact : ∀ host, Restored before host → Restored before (act host)) (h : Restored before host) :
    Restored before (results.call site act host).1 := by
  dsimp only [call, Script.call]
  split
  · exact hact host h
  · exact h

/-- Nothing of the runtime changes before the first file is replaced. -/
theorem prepare_keeps : Restored before (results.prepare package before before).1 := by
  have hid {site : Site} {host : Host File} (h : Restored before host) :
      Restored before (results.call site id host).1 := call_keeps (fun _ h => h) h
  refine Script.sequence_invariant ⟨rfl, rfl, rfl⟩ ?_
  simp only [List.forall_mem_cons, List.not_mem_nil, false_implies, implies_true, and_true]
  refine ⟨fun _ => hid, fun _ => hid, ?_, ?_, fun _ => hid, ?_, ?_⟩
  · split
    · exact fun _ => hid
    · exact fun _ h => h
  · split
    · exact fun _ => hid
    · exact fun _ h => h
  · split
    · exact fun _ h => h
    · exact fun _ => hid
  · split
    · exact fun _ h => h
    · exact fun _ h => call_keeps (fun _ h => ⟨h.binary, h.unit, h.service⟩) h

/-- The commands before the first file is replaced. -/
def preparations (before : Host File) : List Site :=
  [.checkConfig, .makeBackup] ++ (if before.binary.isSome then [.backupBinary] else []) ++
    (if before.unit.isSome then [.backupUnit] else []) ++ [.makeDirectories] ++
    if before.config.isSome then [] else [.installConfig, .moveConfig]

theorem prepare_eq_none : (results.prepare package before before).2 = none ↔
    ∀ site ∈ preparations before, results.status site = 0 := by
  have hcall {site : Site} {act : Host File → Host File} {q : Script (Host File)}
      {host : Host File} : (Script.andThen (results.call site act) q host).2 = none ↔
        results.status site = 0 ∧
          (q (if results.status site = 0 then act host else host)).2 = none :=
    Script.call_andThen_eq_none
  unfold prepare preparations
  cases before.binary <;> cases before.unit <;> cases before.config <;>
    simp [-Script.andThen_skip, hcall]

/-- The commands of the rollback succeed. -/
def RollsBack (results : Results) : Prop :=
  ∀ site ∈ [.stop, .restoreBinary, .removeBinary, .restoreUnit, .removeUnit, .reloadAgain,
    .reenable, .disable, .start], results.status site = 0

theorem rollback_eq (h : results.RollsBack) :
    results.rollback before host = ({ before with config := host.config }, some 1) := by
  obtain ⟨hstop, hbinary, hnoBinary, hunit, hnoUnit, -, hreenable, hdisable, hstart⟩ :
      results.status .stop = 0 ∧ results.status .restoreBinary = 0 ∧
      results.status .removeBinary = 0 ∧ results.status .restoreUnit = 0 ∧
      results.status .removeUnit = 0 ∧ results.status .reloadAgain = 0 ∧
      results.status .reenable = 0 ∧ results.status .disable = 0 ∧ results.status .start = 0 := by
    simpa [RollsBack] using h
  obtain ⟨binary, unit, config, ⟨enabled, active⟩⟩ := before
  cases binary <;> cases unit <;> cases enabled <;> cases active <;>
    simp [rollback, systemctl, call, Script.call, Script.andThen, hstop,
      hbinary, hnoBinary, hunit, hnoUnit, hreenable, hdisable, hstart]

/-- The round after which the loop is left because the sleep fails. -/
def abandoned (results : Results) : List Nat → Option Nat
  | [] => none
  | round :: rounds =>
    if results.healthy round then
      if results.status (.sleep round) = 0 then results.abandoned rounds else some round
    else none

theorem active_of_healthy {round : Nat} (h : results.healthy round) :
    results.isActive round = "active" := by
  simp only [healthy, Bool.and_eq_true, decide_eq_true_eq] at h
  exact h.1.1

theorem healthLoop_of_abandoned {after : Bool → Script (Host File)} {rounds : List Nat}
    {round : Nat} (h : results.abandoned rounds = some round) :
    results.healthLoop after rounds host =
      ({ host with service := { host.service with active := true } },
        some (results.status (.sleep round))) ∧ results.status (.sleep round) ≠ 0 := by
  induction rounds generalizing host with
  | nil => cases h
  | cons first rounds ih =>
    unfold abandoned at h
    split at h
    case isTrue hhealthy =>
      rw [healthLoop, observe, Script.tolerate_andThen, if_pos hhealthy]
      split at h
      case isTrue hstatus =>
        rw [call_andThen hstatus]
        obtain ⟨heq, hne⟩ := ih h
        exact ⟨heq, hne⟩
      case isFalse hstatus =>
        obtain rfl := Option.some.inj h
        rw [call_andThen_of_fails hstatus]
        simp [Script.call, active_of_healthy hhealthy, hstatus]
    case isFalse => cases h

theorem healthLoop_of_none {after : Bool → Script (Host File)} {rounds : List Nat}
    (h : results.abandoned rounds = none) :
    ∃ active, results.healthLoop after rounds host =
      after (rounds.all results.healthy)
        { host with service := { host.service with active := active } } := by
  induction rounds generalizing host with
  | nil => exact ⟨host.service.active, rfl⟩
  | cons first rounds ih =>
    unfold abandoned at h
    rw [healthLoop, observe, Script.tolerate_andThen]
    split at h
    case isTrue hhealthy =>
      rw [if_pos hhealthy, List.all_cons, hhealthy, Bool.true_and]
      split at h
      case isTrue hstatus =>
        rw [call_andThen hstatus]
        exact ih h
      case isFalse => cases h
    case isFalse hhealthy =>
      have hunhealthy : results.healthy first = false := by simpa using hhealthy
      rw [if_neg hhealthy, List.all_cons, hunhealthy, Bool.false_and]
      exact ⟨_, rfl⟩

/-- What the script has changed by the time this command fails is nothing. -/
def HarmlessAt (package : Package File) (results : Results) (before : Host File) : Site → Prop
  | .installUnit => before.binary = some package.binary
  | .moveUnit => before.binary = some package.binary
  | .daemonReload => SameFiles package before
  | .enable => SameFiles package before ∧ results.leaves .enable = before.service
  | .restart => SameFiles package before ∧ results.leaves .restart = before.service
  | .sleep _ => SameFiles package before ∧ before.service = { enabled := true, active := true }
  | _ => True

/-- The commands from the first file that is replaced up to the health check. -/
def replacements : List Site :=
  [.installBinary, .moveBinary, .installUnit, .moveUnit, .daemonReload, .enable, .restart]

/-- The command at which the script ends without a rollback, if its preparations succeed. -/
def earlyEnd (results : Results) : Option Site :=
  match replacements.find? fun site => results.status site ≠ 0 with
  | some site => some site
  | none => (results.abandoned [0, 1, 2, 3, 4]).map .sleep

/-- The script ends early only where it has changed nothing. -/
def Harmless (package : Package File) (results : Results) (before : Host File) : Prop :=
  (∀ site ∈ preparations before, results.status site = 0) →
    ∀ site, results.earlyEnd = some site → HarmlessAt package results before site

theorem install_of_prepared (h : ∀ site ∈ preparations before, results.status site = 0) :
    results.install package before before =
      Script.andThen (results.replace package before) (results.healthLoop
        (fun healthy => if healthy then .exit 0 else results.rollback before) [0, 1, 2, 3, 4])
        (results.prepare package before before).1 := by
  have hnone : (results.prepare package before before).2 = none := prepare_eq_none.mpr h
  rw [install, Script.sequence_cons, Script.andThen_of_none hnone, Script.sequence_cons,
    Script.sequence_cons, Script.sequence_nil, Script.andThen_skip]

theorem replace_andThen (hb : before.binary.isSome) (q : Script (Host File)) :
    Script.andThen (results.replace package before) q =
      .andThen (results.call .installBinary id)
        (.andThen (results.call .moveBinary fun host => { host with binary := some package.binary })
        (.andThen (results.call .installUnit id)
        (.andThen (results.call .moveUnit fun host => { host with unit := some package.unit })
        (.andThen (results.call .daemonReload id)
        (.andThen (results.systemctl .enable fun service => { service with enabled := true })
        (.andThen (results.systemctl .restart fun service => { service with active := true })
          q)))))) := by
  simp only [replace, if_pos hb, Script.sequence_cons, Script.sequence_nil, Script.andThen_skip,
    Script.andThen_assoc]

theorem replace_of_succeeds {q : Script (Host File)} (hb : before.binary.isSome)
    (h : ∀ site ∈ replacements, results.status site = 0) :
    Script.andThen (results.replace package before) q host = q { host with
      binary := some package.binary
      unit := some package.unit
      service := { enabled := true, active := true } } := by
  simp only [replacements, List.forall_mem_cons, List.not_mem_nil, false_implies, implies_true,
    and_true] at h
  obtain ⟨h₁, h₂, h₃, h₄, h₅, h₆, h₇⟩ := h
  rw [replace_andThen hb, call_andThen h₁, call_andThen h₂, call_andThen h₃, call_andThen h₄,
    call_andThen h₅, systemctl_andThen h₆, systemctl_andThen h₇]
  rfl

/-- A command is the first of these that fails, and the script ends there, or the script goes on. -/
theorem call_ends_or {first site : Site} {sites : List Site} {act : Host File → Host File}
    {q : Script (Host File)}
    (h : (first :: sites).find? (fun site => results.status site ≠ 0) = some site) :
    (first = site ∧ Script.andThen (results.call first act) q host =
        (host, some (results.status first))) ∨
      sites.find? (fun site => results.status site ≠ 0) = some site ∧
        Script.andThen (results.call first act) q host = q (act host) := by
  by_cases hfirst : results.status first = 0
  · rw [List.find?_cons_of_neg (by simpa using hfirst)] at h
    exact .inr ⟨h, call_andThen hfirst⟩
  · rw [List.find?_cons_of_pos (by simpa using hfirst)] at h
    exact .inl ⟨Option.some.inj h, call_andThen_of_fails hfirst⟩

theorem systemctl_ends_or {first site : Site} {sites : List Site} {act : Service → Service}
    {q : Script (Host File)}
    (h : (first :: sites).find? (fun site => results.status site ≠ 0) = some site) :
    (first = site ∧ Script.andThen (results.systemctl first act) q host =
        ({ host with service := results.leaves first }, some (results.status first))) ∨
      sites.find? (fun site => results.status site ≠ 0) = some site ∧
        Script.andThen (results.systemctl first act) q host =
          q { host with service := act host.service } := by
  by_cases hfirst : results.status first = 0
  · rw [List.find?_cons_of_neg (by simpa using hfirst)] at h
    exact .inr ⟨h, systemctl_andThen hfirst⟩
  · rw [List.find?_cons_of_pos (by simpa using hfirst)] at h
    exact .inl ⟨Option.some.inj h, systemctl_andThen_of_fails hfirst⟩

/-- The script ends at the first replacement that fails, and what is left is as before just if
it is harmless there. -/
theorem replace_of_fails (package : Package File) (q : Script (Host File)) {site : Site}
    (h : Restored before host) (hb : before.binary.isSome)
    (hsite : (replacements.find? fun site => results.status site ≠ 0) = some site) :
    ∃ left, Script.andThen (results.replace package before) q host =
        (left, some (results.status site)) ∧ results.status site ≠ 0 ∧
      (Restored before left ↔ HarmlessAt package results before site) := by
  have hstatus : results.status site ≠ 0 := by simpa using List.find?_some hsite
  have hrestored (left : Host File) : Restored before left ↔ left.binary = before.binary ∧
      left.unit = before.unit ∧ left.service = before.service :=
    ⟨fun h => ⟨h.binary, h.unit, h.service⟩, fun h => ⟨h.1, h.2.1, h.2.2⟩⟩
  obtain ⟨hbinary, hunit, hservice⟩ := h
  rw [replace_andThen hb]
  rcases call_ends_or hsite with ⟨rfl, heq⟩ | ⟨hsite, heq⟩
  · exact ⟨_, heq, hstatus, by simp [hrestored, HarmlessAt, hbinary, hunit, hservice]⟩
  rw [heq]
  rcases call_ends_or hsite with ⟨rfl, heq⟩ | ⟨hsite, heq⟩
  · exact ⟨_, heq, hstatus, by simp [hrestored, HarmlessAt, hbinary, hunit, hservice]⟩
  rw [heq]
  rcases call_ends_or hsite with ⟨rfl, heq⟩ | ⟨hsite, heq⟩
  · exact ⟨_, heq, hstatus, by simp [hrestored, HarmlessAt, hunit, hservice, eq_comm]⟩
  rw [heq]
  rcases call_ends_or hsite with ⟨rfl, heq⟩ | ⟨hsite, heq⟩
  · exact ⟨_, heq, hstatus, by simp [hrestored, HarmlessAt, hunit, hservice, eq_comm]⟩
  rw [heq]
  rcases call_ends_or hsite with ⟨rfl, heq⟩ | ⟨hsite, heq⟩
  · exact ⟨_, heq, hstatus, by simp [hrestored, HarmlessAt, SameFiles, hservice, eq_comm]⟩
  rw [heq]
  rcases systemctl_ends_or hsite with ⟨rfl, heq⟩ | ⟨hsite, heq⟩
  · exact ⟨_, heq, hstatus, by simp [hrestored, HarmlessAt, SameFiles, eq_comm, and_assoc]⟩
  rw [heq]
  rcases systemctl_ends_or hsite with ⟨rfl, heq⟩ | ⟨hsite, -⟩
  · exact ⟨_, heq, hstatus, by simp [hrestored, HarmlessAt, SameFiles, eq_comm, and_assoc]⟩
  · cases hsite

/-- An upgrade that fails leaves the installation as it was just if it does not end, at a
command after the first file that is replaced, without a rollback that would matter. -/
theorem failed_upgrade_restored_iff (hb : before.binary.isSome) (hr : results.RollsBack) :
    ((results.install package before before).2 ≠ some 0 →
      Restored before (results.install package before before).1) ↔
    Harmless package results before := by
  by_cases hprepared : ∀ site ∈ preparations before, results.status site = 0
  swap
  · have hfails : (results.prepare package before before).2 ≠ none := mt prepare_eq_none.mp hprepared
    obtain ⟨status, hstatus⟩ := Option.ne_none_iff_exists'.mp hfails
    rw [install, Script.sequence_cons, Script.andThen_of_some hstatus]
    exact iff_of_true (fun _ => prepare_keeps) fun h => absurd h hprepared
  have hkeeps : Restored before (results.prepare package before before).1 := prepare_keeps
  rw [install_of_prepared hprepared, Harmless, forall_prop_of_true hprepared, earlyEnd]
  cases hfind : replacements.find? fun site => results.status site ≠ 0 with
  | some site =>
    obtain ⟨left, heq, hstatus, hleft⟩ := replace_of_fails package (results.healthLoop
      (fun healthy => if healthy then .exit 0 else results.rollback before) [0, 1, 2, 3, 4])
      hkeeps hb hfind
    rw [heq]
    simp [hstatus, hleft]
  | none =>
    have hall : ∀ site ∈ replacements, results.status site = 0 := by
      simpa using List.find?_eq_none.mp hfind
    rw [replace_of_succeeds hb hall]
    cases hround : results.abandoned [0, 1, 2, 3, 4] with
    | some round =>
      obtain ⟨heq, hstatus⟩ := healthLoop_of_abandoned hround
      rw [heq]
      have hleft : Restored before { (results.prepare package before before).1 with
          binary := some package.binary
          unit := some package.unit
          service := { enabled := true, active := true } } ↔
            HarmlessAt package results before (.sleep round) :=
        ⟨fun h => ⟨⟨h.binary.symm, h.unit.symm⟩, h.service.symm⟩,
          fun h => ⟨h.1.1.symm, h.1.2.symm, h.2.symm⟩⟩
      simpa [hstatus] using hleft
    | none =>
      refine iff_of_true ?_ (by simp)
      obtain ⟨active, heq⟩ := healthLoop_of_none hround
      rw [heq]
      split
      · exact fun h => absurd rfl h
      · rw [rollback_eq hr]
        exact fun _ => ⟨rfl, rfl, rfl⟩

section Sample

def sampleBefore : Host Nat where
  binary := some 1
  unit := some 2
  config := some 3
  service := { enabled := true, active := true }

def samplePackage : Package Nat where
  binary := 10
  unit := 20
  config := 30

/-- Every command succeeds, but the service is found failed in the third round. -/
def unhealthy : Results where
  status _ := 0
  leaves _ := { enabled := false, active := false }
  isActive round := if round = 2 then "failed" else "active"
  mainPid _ := "4711"
  nRestarts _ := "0"

theorem failed_upgrade_restored_sample :
    Restored sampleBefore (unhealthy.install samplePackage sampleBefore sampleBefore).1 := by
  have hend : unhealthy.earlyEnd = none := by decide +kernel
  refine (failed_upgrade_restored_iff rfl fun _ _ => rfl).mpr ?_ (by decide +kernel)
  intro _ site hsite
  rw [hend] at hsite
  cases hsite

/-- Every command succeeds but `daemon-reload`. -/
def unreloaded : Results where
  status site := if site = .daemonReload then 1 else 0
  leaves _ := { enabled := false, active := false }
  isActive _ := "active"
  mainPid _ := "4711"
  nRestarts _ := "0"

/-- The script then ends with the new binary and the new unit in place. -/
theorem failed_reload_not_restored :
    unreloaded.RollsBack ∧
      (unreloaded.install samplePackage sampleBefore sampleBefore).2 = some 1 ∧
      ¬ Restored sampleBefore (unreloaded.install samplePackage sampleBefore sampleBefore).1 := by
  refine ⟨by unfold RollsBack; decide, by decide +kernel, fun h => ?_⟩
  have hbinary := h.binary
  exact absurd hbinary (by decide +kernel)

end Sample

end Results

end RpiDashboard.Install
