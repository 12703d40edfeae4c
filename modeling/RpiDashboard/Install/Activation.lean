import Mathlib.Logic.Function.Basic
import RpiDashboard.Data.Script

/-! Activating a release of the dashboard (`install/activate-release.sh`), from the backup
of the files it found. -/

namespace RpiDashboard.Install

/-- The files of the runtime allowlist but the configuration, below the installation root. -/
inductive RuntimeFile
  | dashboard | unit | activateRelease | provision | runDashboardSession | runKiosk
  deriving DecidableEq

def runtimeFiles : List RuntimeFile :=
  [.dashboard, .unit, .activateRelease, .provision, .runDashboardSession, .runKiosk]

namespace Activation

structure Host (File : Type) where
  files : RuntimeFile → Option File
  /-- The dashboard has its executable bit. -/
  executable : Bool
  config : Option File
  /-- The backup directory of this release. -/
  backup : RuntimeFile → Option File

structure Stage (File : Type) where
  files : RuntimeFile → File
  config : File

/-- The commands of the script; those of the health check run once a second. -/
inductive Site
  | makeBackup
  | makeBackupDirectory : RuntimeFile → Site
  | backup : RuntimeFile → Site
  | makeDirectories
  | install : RuntimeFile → Site
  | makeConfigDirectory | installConfig | daemonReload | restart | showInitialRestarts
  | showInitialPid
  | showState : Nat → Site
  | showSubstate : Nat → Site
  | showPid : Nat → Site
  | showRestarts : Nat → Site
  | sleep : Nat → Site
  | restore : RuntimeFile → Site
  | reloadAgain | restartAgain | stop | enableGetty | makeBackupRoot | recordRelease
  deriving DecidableEq

/-- Exit statuses, what an `install` that fails leaves of its target, and what the queries
print. -/
structure Results (File : Type) where
  status : Site → Nat
  leaves : RuntimeFile → Option File
  initialRestarts : String
  initialPid : String
  state : Nat → String
  substate : Nat → String
  pid : Nat → String
  restarts : Nat → String

variable {File : Type} (stage : Stage File) (results : Results File) (before : Host File)

def Host.hadInstall : Bool := (before.files .dashboard).isSome && before.executable

/-- What a command leaves. -/
def effect (site : Site) (host : Host File) : Host File :=
  match site with
  | .backup file =>
    if results.status site = 0 then
      { host with backup := Function.update host.backup file (host.files file) }
    else host
  | .install file =>
    { host with
      files := Function.update host.files file
        (if results.status site = 0 then some (stage.files file) else results.leaves file) }
  | .installConfig =>
    if results.status site = 0 then { host with config := some stage.config } else host
  | .restore file =>
    { host with
      files := Function.update host.files file
        (if results.status site = 0 then host.backup file else results.leaves file) }
  | _ => host

def run (sites : List Site) : Script (Host File) :=
  .calls results.status (effect stage results) sites

def backups : List Site :=
  if before.hadInstall then
    .makeBackup :: runtimeFiles.flatMap fun file =>
      if (before.files file).isSome then [.makeBackupDirectory file, .backup file] else []
  else []

/-- From the first file that is replaced up to the process that was started. -/
def replacements : List Site :=
  [.makeDirectories] ++ runtimeFiles.map .install ++
    (if before.config.isSome then [] else [.makeConfigDirectory, .installConfig]) ++
    [.daemonReload, .restart, .showInitialRestarts, .showInitialPid]

def rollback : Script (Host File) :=
  if before.hadInstall then
    .andThen (fun host => run stage results
        ((runtimeFiles.filter fun file => (host.backup file).isSome).map .restore) host)
      (run stage results [.reloadAgain, .restartAgain])
  else .sequence
    [.tolerate (run stage results [.stop]), .tolerate (run stage results [.enableGetty])]

/-- The pattern `''|0|*[!0-9]*`. -/
def noPid (text : String) : Bool :=
  text = "" || text = "0" || !text.toList.all Char.isDigit

def unhealthy (second : Nat) : Bool :=
  results.state second ++ ":" ++ results.substate second ≠ "active:running" ||
    results.pid second ≠ results.initialPid || results.restarts second ≠ results.initialRestarts

/-- The `while` loop over these seconds, and the record of the release after it. -/
def healthLoop : List Nat → Script (Host File)
  | [] => .andThen (run stage results [.makeBackupRoot, .recordRelease]) (.exit 0)
  | second :: seconds =>
    .andThen
      (run stage results
        [.showState second, .showSubstate second, .showPid second, .showRestarts second])
      (if unhealthy results second then .andThen (rollback stage results before) (.exit 1)
      else .andThen (run stage results [.sleep second]) (healthLoop seconds))

def activate (healthSeconds : Nat) : Script (Host File) := .sequence
  [run stage results (backups before ++ replacements before),
    if noPid results.initialPid then .andThen (rollback stage results before) (.exit 1)
    else healthLoop stage results before (List.range healthSeconds)]

end Activation

end RpiDashboard.Install
