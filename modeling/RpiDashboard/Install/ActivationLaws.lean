import Mathlib.Data.List.TakeWhile
import RpiDashboard.Install.Activation

/-! What a failed activation leaves of the runtime files before. -/

namespace RpiDashboard.Install.Activation

variable {File : Type} {stage : Stage File} {results : Results File} {before host : Host File}
  {sites : List Site} {file : RuntimeFile}

theorem mem_runtimeFiles (file : RuntimeFile) : file ∈ runtimeFiles := by
  cases file <;> decide

section Effects

/-- All these commands succeed. -/
def Succeed (results : Results File) (sites : List Site) : Prop :=
  ∀ site ∈ sites, results.status site = 0

/-- What commands leave, one after the other. -/
def effects (stage : Stage File) (results : Results File) (host : Host File) (sites : List Site) :
    Host File :=
  sites.foldl (fun host site => effect stage results site host) host

/-- A runtime file changes where it is installed or restored only. -/
theorem effect_files (site : Site) : (effect stage results site host).files file =
    if site = .install file then
      if results.status site = 0 then some (stage.files file) else results.leaves file
    else if site = .restore file then
      if results.status site = 0 then host.backup file else results.leaves file
    else host.files file := by
  cases site with
  | install other | restore other =>
    by_cases heq : file = other
    · simp [effect, heq]
    · simp [effect, heq, Ne.symm heq]
  | backup other | installConfig =>
    unfold effect
    dsimp only
    split <;> simp
  | _ => simp [effect]

theorem effect_backup (site : Site) : (effect stage results site host).backup file =
    if site = .backup file ∧ results.status site = 0 then host.files file
    else host.backup file := by
  cases site with
  | backup other =>
    unfold effect
    dsimp only
    split
    · by_cases heq : file = other
      · simp [*]
      · simp [heq, Ne.symm heq]
    · simp [*]
  | installConfig =>
    unfold effect
    dsimp only
    split <;> simp
  | _ => simp [effect]

theorem effects_files (h : Succeed results sites) (hr : ∀ file, .restore file ∉ sites) :
    (effects stage results host sites).files file =
      if .install file ∈ sites then some (stage.files file) else host.files file := by
  have hview : ∀ host : Host File, ∀ site ∈ sites, True →
      (effect stage results site host).files file =
        if site = .install file then some (stage.files file) else host.files file := by
    intro host site hsite _
    have hnot : site ≠ .restore file := fun heq => hr file (heq ▸ hsite)
    rw [effect_files, if_pos (h site hsite), if_neg hnot]
  exact Script.foldl_view (P := fun _ => True) (v := fun host : Host File => host.files file)
    trivial (fun _ _ _ _ => trivial) hview

theorem effects_backup (h : Succeed results sites) (hi : ∀ file, .install file ∉ sites)
    (hr : ∀ file, .restore file ∉ sites) :
    (effects stage results host sites).backup file =
      if .backup file ∈ sites then host.files file else host.backup file := by
  have hfiles : ∀ host : Host File, ∀ site ∈ sites,
      (effect stage results site host).files = host.files := by
    intro host site hsite
    funext file
    have hinstall : site ≠ .install file := fun heq => hi file (heq ▸ hsite)
    have hrestore : site ≠ .restore file := fun heq => hr file (heq ▸ hsite)
    rw [effect_files, if_neg hinstall, if_neg hrestore]
  have hview : ∀ later : Host File, ∀ site ∈ sites, later.files = host.files →
      (effect stage results site later).backup file =
        if site = .backup file then host.files file else later.backup file := by
    intro later site hsite hlater
    rw [effect_backup, hlater]
    simp only [h site hsite, and_true]
  exact Script.foldl_view (P := fun later : Host File => later.files = host.files)
    (v := fun later : Host File => later.backup file) rfl
    (fun later site hsite hlater => (hfiles later site hsite).trans hlater) hview

/-- What installing does to the backups: nothing. -/
theorem effects_backup_of_no_backup (hb : ∀ file, .backup file ∉ sites) :
    (effects stage results host sites).backup = host.backup := by
  induction sites generalizing host with
  | nil => rfl
  | cons site sites ih =>
    refine (ih fun file hm => hb file (List.mem_cons_of_mem site hm)).trans ?_
    funext file
    have hnot : site ≠ .backup file := fun heq => hb file (heq ▸ List.mem_cons_self)
    rw [effect_backup, if_neg fun heq => hnot heq.1]

theorem effects_restored (h : Succeed results sites) (hi : ∀ file, .install file ∉ sites)
    (hb : ∀ file, .backup file ∉ sites) :
    (effects stage results host sites).files file =
      if .restore file ∈ sites then host.backup file else host.files file := by
  have hview : ∀ later : Host File, ∀ site ∈ sites, later.backup = host.backup →
      (effect stage results site later).files file =
        if site = .restore file then host.backup file else later.files file := by
    intro later site hsite hlater
    have hinstall : site ≠ .install file := fun heq => hi file (heq ▸ hsite)
    rw [effect_files, if_neg hinstall, if_pos (h site hsite), hlater]
  refine Script.foldl_view (P := fun later : Host File => later.backup = host.backup)
    (v := fun later : Host File => later.files file) rfl (fun later site hsite hlater => ?_) hview
  have hkept : (effects stage results later [site]).backup = later.backup :=
    effects_backup_of_no_backup fun file hm => hb file (List.mem_singleton.mp hm ▸ hsite)
  exact hkept.trans hlater

end Effects

section Ending

/-- How a run ends: at a command that fails, with the rollback, or with the release. -/
inductive Ending
  | fails : Site → Ending
  | rollsBack : Ending
  | completes : Ending

def firstFailure (results : Results File) (sites : List Site) : Option Site :=
  sites.find? fun site => results.status site ≠ 0

def queries (second : Nat) : List Site :=
  [.showState second, .showSubstate second, .showPid second, .showRestarts second]

def loopEnding (results : Results File) : List Nat → Ending
  | [] =>
    match firstFailure results [.makeBackupRoot, .recordRelease] with
    | some site => .fails site
    | none => .completes
  | second :: seconds =>
    match firstFailure results (queries second) with
    | some site => .fails site
    | none =>
      if unhealthy results second then .rollsBack
      else if results.status (.sleep second) ≠ 0 then .fails (.sleep second)
      else loopEnding results seconds

def ending (results : Results File) (before : Host File) (healthSeconds : Nat) : Ending :=
  match firstFailure results (backups before ++ replacements before) with
  | some site => .fails site
  | none =>
    if noPid results.initialPid then .rollsBack
    else loopEnding results (List.range healthSeconds)

/-- The run ends with the release, or it has changed nothing by then, or it rolls back and
every file was there before. -/
def Harmless (stage : Stage File) (results : Results File) (before : Host File)
    (healthSeconds : Nat) : Prop :=
  match ending results before healthSeconds with
  | .fails site =>
    (∀ file, .install file ∈
        (backups before ++ replacements before).takeWhile (fun site => results.status site = 0) →
      before.files file = some (stage.files file)) ∧
    ∀ file, site = .install file → results.leaves file = before.files file
  | .rollsBack => ∀ file, (before.files file).isSome
  | .completes => True

theorem run_of_none (h : firstFailure results sites = none) :
    run stage results sites host = (effects stage results host sites, none) := by
  have hall : Succeed results sites := by simpa [Succeed] using List.find?_eq_none.mp h
  exact Script.calls_of_succeed hall

theorem status_of_firstFailure {site : Site} (h : firstFailure results sites = some site) :
    results.status site ≠ 0 := by
  simpa using List.find?_some h

theorem run_of_some {site : Site} (h : firstFailure results sites = some site) :
    run stage results sites host =
      (effect stage results site (effects stage results host
        (sites.takeWhile fun site => results.status site = 0)), some (results.status site)) := by
  have hstatus : results.status site ≠ 0 := status_of_firstFailure h
  obtain ⟨-, first, last, rfl, hfirst⟩ := List.find?_eq_some_iff_append.mp h
  have hsucceed : Succeed results first := by simpa [Succeed] using hfirst
  have htake : ((first ++ site :: last).takeWhile fun site => results.status site = 0) = first := by
    rw [List.takeWhile_append_of_pos fun other ho => decide_eq_true (hsucceed other ho),
      List.takeWhile_cons_of_neg (by simpa using hstatus), List.append_nil]
  rw [htake]
  exact Script.calls_of_fails hsucceed hstatus

/-- The commands of the rollback succeed. -/
def RollsBack (results : Results File) : Prop :=
  (∀ file, results.status (.restore file) = 0) ∧ results.status .reloadAgain = 0 ∧
    results.status .restartAgain = 0

/-- The rollback brings back what has a backup, and removes nothing. -/
theorem rollback_files (stage : Stage File) (host : Host File) (hb : before.hadInstall)
    (hr : RollsBack results) :
    ∃ left, rollback stage results before host = (left, none) ∧
      ∀ file, left.files file =
        if (host.backup file).isSome then host.backup file else host.files file := by
  let restores :=
    (runtimeFiles.filter fun file => (host.backup file).isSome).map Site.restore
  have hrestores : Succeed results restores := by
    intro site hsite
    obtain ⟨file, -, rfl⟩ := List.mem_map.mp hsite
    exact hr.1 file
  have hsystemctl : Succeed results [.reloadAgain, .restartAgain] := by
    simpa [Succeed] using hr.2
  have hrun : run stage results restores host = (effects stage results host restores, none) :=
    Script.calls_of_succeed hrestores
  refine ⟨effects stage results host restores, ?_, fun file => ?_⟩
  · rw [rollback, if_pos hb]
    calc Script.andThen _ (run stage results [.reloadAgain, .restartAgain]) host
        = run stage results [.reloadAgain, .restartAgain] (effects stage results host restores) :=
          Script.andThen_of_eq_none hrun
      _ = (effects stage results host restores, none) := Script.calls_of_succeed hsystemctl
  · rw [effects_restored hrestores (by simp [restores]) (by simp [restores])]
    simp [restores, mem_runtimeFiles]

/-- Commands that change nothing, of which one may fail. -/
theorem run_idle_of_some {site : Site} {q : Script (Host File)}
    (hidle : ∀ site ∈ sites, ∀ host : Host File, effect stage results site host = host)
    (h : firstFailure results sites = some site) :
    Script.andThen (run stage results sites) q host = (host, some (results.status site)) := by
  have heffects : ∀ fewer : List Site, fewer ⊆ sites → effects stage results host fewer = host := by
    intro fewer hfewer
    induction fewer with
    | nil => rfl
    | cons first fewer ih =>
      rw [List.cons_subset] at hfewer
      calc effects stage results host (first :: fewer)
          = effects stage results (effect stage results first host) fewer := rfl
        _ = host := by rw [hidle first hfewer.1, ih hfewer.2]
  have hrun : run stage results sites host = _ := run_of_some h
  rw [heffects _ (List.takeWhile_subset _), hidle site (List.mem_of_find?_eq_some h)] at hrun
  exact Script.andThen_of_eq_some hrun

/-- What the health check comes to; its commands change no file. -/
theorem healthLoop_of_ending (stage : Stage File) (results : Results File)
    (before host : Host File) (seconds : List Nat) :
    match loopEnding results seconds with
    | .fails site => results.status site ≠ 0 ∧ (∀ file, site ≠ .install file) ∧
        healthLoop stage results before seconds host = (host, some (results.status site))
    | .rollsBack => healthLoop stage results before seconds host =
        Script.andThen (rollback stage results before) (.exit 1) host
    | .completes => healthLoop stage results before seconds host = (host, some 0) := by
  induction seconds with
  | nil =>
    unfold loopEnding
    cases h : firstFailure results [.makeBackupRoot, .recordRelease] with
    | some site =>
      have hmem := List.mem_of_find?_eq_some h
      exact ⟨status_of_firstFailure h, by rintro file rfl; simp at hmem,
        run_idle_of_some (by simp [effect]) h⟩
    | none =>
      have hrun : run stage results [.makeBackupRoot, .recordRelease] host = (host, none) :=
        run_of_none h
      dsimp only
      rw [healthLoop, Script.andThen_of_eq_none hrun]
      rfl
  | cons second seconds ih =>
    unfold loopEnding
    cases h : firstFailure results (queries second) with
    | some site =>
      have hmem := List.mem_of_find?_eq_some h
      exact ⟨status_of_firstFailure h, by rintro file rfl; simp [queries] at hmem,
        run_idle_of_some (by simp [effect]) h⟩
    | none =>
      have hrun : run stage results (queries second) host = (host, none) := run_of_none h
      have hloop : healthLoop stage results before (second :: seconds) host =
          (if unhealthy results second then
              Script.andThen (rollback stage results before) (.exit 1)
            else .andThen (run stage results [.sleep second])
              (healthLoop stage results before seconds)) host :=
        Script.andThen_of_eq_none hrun
      dsimp only
      rw [hloop]
      cases hunhealthy : unhealthy results second with
      | true => simp
      | false =>
        by_cases hsleep : results.status (.sleep second) = 0
        · have hslept : run stage results [.sleep second] host = (host, none) :=
            Script.calls_of_succeed (by simpa using hsleep)
          have hnext : Script.andThen (run stage results [.sleep second])
              (healthLoop stage results before seconds) host =
                healthLoop stage results before seconds host :=
            Script.andThen_of_eq_none hslept
          simpa [hsleep, hnext] using ih
        · have hfails : firstFailure results [.sleep second] = some (.sleep second) := by
            simp [firstFailure, hsleep]
          have hends : Script.andThen (run stage results [.sleep second])
              (healthLoop stage results before seconds) host =
                (host, some (results.status (.sleep second))) :=
            run_idle_of_some (by simp [effect]) hfails
          simp [hsleep, hends]

theorem effect_files_of_fails {site : Site} (hs : results.status site ≠ 0)
    (hr : ∀ file, site ≠ .restore file) :
    (effect stage results site host).files file =
      if site = .install file then results.leaves file else host.files file := by
  rw [effect_files, if_neg hs, if_neg (hr file)]

theorem not_mem_backups :
    Site.install file ∉ backups before ∧ Site.restore file ∉ backups before := by
  unfold backups
  constructor
  · split
    · simp only [List.mem_cons, List.mem_flatMap, reduceCtorEq, false_or, not_exists, not_and]
      intro other _
      split <;> simp
    · exact List.not_mem_nil
  · split
    · simp only [List.mem_cons, List.mem_flatMap, reduceCtorEq, false_or, not_exists, not_and]
      intro other _
      split <;> simp
    · exact List.not_mem_nil

theorem mem_replacements : Site.install file ∈ replacements before ∧
    Site.restore file ∉ replacements before ∧ Site.backup file ∉ replacements before := by
  unfold replacements
  refine ⟨by simp [mem_runtimeFiles], ?_, ?_⟩
  · split <;> simp
  · split <;> simp

theorem backup_mem_backups (hb : before.hadInstall) :
    Site.backup file ∈ backups before ↔ (before.files file).isSome := by
  unfold backups
  rw [if_pos hb]
  constructor
  · intro h
    simp only [List.mem_cons, reduceCtorEq, List.mem_flatMap, false_or] at h
    obtain ⟨other, -, h⟩ := h
    split at h
    case isTrue hsome =>
      obtain rfl : file = other := by simpa using h
      exact hsome
    case isFalse => simp at h
  · intro h
    refine List.mem_cons_of_mem _ (List.mem_flatMap.mpr ⟨file, mem_runtimeFiles file, ?_⟩)
    simp [h]

/-- After every replacement has succeeded: the files of the release, and a backup of every
file there was. -/
theorem replaced (stage : Stage File) (hb : before.hadInstall)
    (h : Succeed results (backups before ++ replacements before)) :
    (∀ file, (effects stage results before (backups before ++ replacements before)).files file =
        some (stage.files file)) ∧
      ∀ file, (before.files file).isSome →
        (effects stage results before (backups before ++ replacements before)).backup file =
          before.files file := by
  refine ⟨fun file => ?_, fun file hfile => ?_⟩
  · rw [effects_files h fun file => ?_]
    · simp [mem_replacements]
    · simp [not_mem_backups, mem_replacements]
  · have happend : effects stage results before (backups before ++ replacements before) =
        effects stage results (effects stage results before (backups before))
          (replacements before) := List.foldl_append
    have hbackups : Succeed results (backups before) :=
      fun site hsite => h site (List.mem_append_left _ hsite)
    rw [happend, effects_backup_of_no_backup fun file => mem_replacements.2.2,
      effects_backup hbackups (fun file => not_mem_backups.1) fun file => not_mem_backups.2,
      if_pos ((backup_mem_backups hb).mpr hfile)]

/-- The files once the rollback has run after every replacement: as before, where there was
one before. -/
theorem rolledBack_iff (stage : Stage File) (hb : before.hadInstall) (hr : RollsBack results)
    (h : Succeed results (backups before ++ replacements before)) :
    let host := effects stage results before (backups before ++ replacements before)
    ∃ left, Script.andThen (rollback stage results before) (.exit 1) host = (left, some 1) ∧
      (left.files = before.files ↔ ∀ file, (before.files file).isSome) := by
  intro host
  obtain ⟨hfiles, hbackup⟩ := replaced stage hb h
  obtain ⟨left, heq, hleft⟩ := rollback_files stage host hb hr
  refine ⟨left, ?_, ?_⟩
  · rw [Script.andThen_of_eq_none heq]
    rfl
  · constructor
    · intro hrestored file
      have hsome : (left.files file).isSome := by
        rw [hleft file]
        split
        case isTrue hbackedUp => exact hbackedUp
        case isFalse => simp [host, hfiles file]
      rwa [hrestored] at hsome
    · intro hall
      funext file
      have hsome := hbackup file (hall file)
      rw [hleft file, if_pos (by rw [hsome]; exact hall file), hsome]

/-- A run that ends at a command before the health check. -/
theorem ended_iff {site : Site}
    (h : firstFailure results (backups before ++ replacements before) = some site) :
    (effect stage results site (effects stage results before
        ((backups before ++ replacements before).takeWhile
          fun site => results.status site = 0))).files = before.files ↔
      (∀ file, .install file ∈ (backups before ++ replacements before).takeWhile
          (fun site => results.status site = 0) → before.files file = some (stage.files file)) ∧
        ∀ file, site = .install file → results.leaves file = before.files file := by
  have hstatus := status_of_firstFailure h
  have hmem := List.mem_of_find?_eq_some h
  have hrestore (file : RuntimeFile) :
      Site.restore file ∉ backups before ++ replacements before := by
    simp [not_mem_backups, mem_replacements]
  have hran : Succeed results ((backups before ++ replacements before).takeWhile
      fun site => results.status site = 0) :=
    fun other ho => by simpa using List.mem_takeWhile_imp ho
  have hnot (file : RuntimeFile) : Site.restore file ∉ (backups before ++ replacements
      before).takeWhile fun site => results.status site = 0 :=
    fun hm => hrestore file ((List.takeWhile_subset _) hm)
  rw [funext_iff, ← forall_and]
  refine forall_congr' fun file => ?_
  rw [effect_files_of_fails hstatus fun other heq => hrestore other (heq ▸ hmem),
    effects_files hran hnot]
  by_cases hsite : site = .install file
  · have habsent : Site.install file ∉ (backups before ++ replacements before).takeWhile
        fun site => results.status site = 0 := fun hm => hstatus (hsite ▸ hran _ hm)
    simp [hsite, habsent]
  · by_cases hinstalled : Site.install file ∈ (backups before ++ replacements before).takeWhile
        fun site => results.status site = 0
    · simp [hsite, eq_comm]
    · simp [hsite, hinstalled]

/-- A failed activation leaves every runtime file as it was just if it ends before it has
changed any, or rolls back and no file is new. -/
theorem failed_activation_restored_iff (hb : before.hadInstall) (hr : RollsBack results)
    (healthSeconds : Nat) :
    ((activate stage results before healthSeconds before).2 ≠ some 0 →
      (activate stage results before healthSeconds before).1.files = before.files) ↔
    Harmless stage results before healthSeconds := by
  unfold activate Harmless ending
  cases hfirst : firstFailure results (backups before ++ replacements before) with
  | some site =>
    have hrun : run stage results (backups before ++ replacements before) before = _ :=
      run_of_some hfirst
    rw [Script.sequence_cons, Script.andThen_of_eq_some hrun]
    have hstatus := status_of_firstFailure hfirst
    simpa [hstatus] using ended_iff hfirst
  | none =>
    have hsucceed : Succeed results (backups before ++ replacements before) := by
      simpa [Succeed] using List.find?_eq_none.mp hfirst
    have hrun : run stage results (backups before ++ replacements before) before = _ :=
      run_of_none hfirst
    obtain ⟨left, hrolledBack, hleft⟩ := rolledBack_iff stage hb hr hsucceed
    rw [Script.sequence_cons, Script.andThen_of_eq_none hrun]
    cases hpid : noPid results.initialPid with
    | true => simpa [hrolledBack] using hleft
    | false =>
      have hloop := healthLoop_of_ending stage results before
        (effects stage results before (backups before ++ replacements before))
        (List.range healthSeconds)
      cases hending : loopEnding results (List.range healthSeconds) with
      | fails site =>
        rw [hending] at hloop
        obtain ⟨hstatus, hsite, heq⟩ := hloop
        have hfiles := (replaced stage hb hsucceed).1
        have htake : ((backups before ++ replacements before).takeWhile
            fun site => results.status site = 0) = backups before ++ replacements before :=
          List.takeWhile_eq_self_iff.mpr fun site hsite => decide_eq_true (hsucceed site hsite)
        have hsame : (effects stage results before
            (backups before ++ replacements before)).files = before.files ↔
              ∀ file, before.files file = some (stage.files file) := by
          rw [funext_iff]
          exact forall_congr' fun file => by rw [hfiles file, eq_comm]
        simp [heq, hstatus, hsame, htake, mem_replacements, hsite]
      | rollsBack =>
        rw [hending] at hloop
        simpa [hloop, hrolledBack] using hleft
      | completes =>
        rw [hending] at hloop
        simp [hloop]

section Sample

def sampleStage : Stage Nat where
  files _ := 20
  config := 30

/-- A host with every file. -/
def sampleHost : Host Nat where
  files _ := some 10
  executable := true
  config := some 11
  backup _ := none

/-- Every command succeeds, and the process is replaced in the second second. -/
def restarted : Results Nat where
  status _ := 0
  leaves _ := none
  initialRestarts := "0"
  initialPid := "711"
  state _ := "active"
  substate _ := "running"
  pid second := if second = 0 then "711" else "712"
  restarts _ := "0"

theorem failed_activation_restored_sample :
    (activate sampleStage restarted sampleHost 2 sampleHost).1.files = sampleHost.files := by
  have hharmless : Harmless sampleStage restarted sampleHost 2 := by
    have hends : ending restarted sampleHost 2 = .rollsBack := by rfl
    unfold Harmless
    rw [hends]
    exact fun _ => rfl
  refine (failed_activation_restored_iff rfl ⟨fun _ => rfl, rfl, rfl⟩ 2).mpr hharmless ?_
  decide +kernel

/-- The same, but `daemon-reload` fails. -/
def unreloaded : Results Nat :=
  { restarted with status site := if site = .daemonReload then 1 else 0 }

/-- The script then ends with every file replaced. -/
theorem failed_activation_reload_not_restored :
    RollsBack unreloaded ∧
      (activate sampleStage unreloaded sampleHost 2 sampleHost).2 = some 1 ∧
      (activate sampleStage unreloaded sampleHost 2 sampleHost).1.files .dashboard ≠
        sampleHost.files .dashboard := by
  refine ⟨⟨fun _ => rfl, rfl, rfl⟩, ?_, ?_⟩
  · decide +kernel
  · decide +kernel

end Sample

end Ending

end RpiDashboard.Install.Activation
