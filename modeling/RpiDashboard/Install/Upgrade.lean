import RpiDashboard.Data.Script

/-! The daemon's installer (`daemon/package/install.sh`). -/

namespace RpiDashboard.Install

variable {File : Type}

/-- How systemd has the service. -/
structure Service where
  enabled : Bool
  active : Bool
  deriving DecidableEq

structure Host (File : Type) where
  binary : Option File
  unit : Option File
  config : Option File
  service : Service

structure Package (File : Type) where
  binary : File
  unit : File
  config : File

/-- The external commands whose failure matters, in the order of the script; the health
check sleeps once in every round. -/
inductive Site
  | checkConfig | makeBackup | backupBinary | backupUnit | makeDirectories | installConfig
  | moveConfig | installBinary | moveBinary | installUnit | moveUnit | daemonReload | enable
  | restart | enableNow
  | sleep : Nat → Site
  | stop | restoreBinary | removeBinary | restoreUnit | removeUnit | reloadAgain | reenable
  | disable | start
  deriving DecidableEq

/-- What the commands of one run do: their exit statuses, how a `systemctl` that fails
leaves the service, and what the queries of each round print. -/
structure Results where
  status : Site → Nat
  leaves : Site → Service
  isActive : Nat → String
  mainPid : Nat → String
  nRestarts : Nat → String

/-- `[ text -gt 0 ]`, for a decimal number. -/
def greaterThanZero (text : String) : Bool :=
  text.toList.all Char.isDigit && text.toList.any (· ≠ '0')

namespace Results

variable (results : Results)

/-- A command that leaves all as it is where it fails. -/
def call (site : Site) (act : Host File → Host File) : Script (Host File) :=
  .call (results.status site) fun host => if results.status site = 0 then act host else host

def systemctl (site : Site) (act : Service → Service) : Script (Host File) :=
  .call (results.status site) fun host =>
    { host with
      service := if results.status site = 0 then act host.service else results.leaves site }

/-- The test of one round: active, a process, and the process and the number of restarts
of the first round. -/
def healthy (round : Nat) : Bool :=
  results.isActive round = "active" && greaterThanZero (results.mainPid round) &&
    (round = 0 || (results.mainPid round = results.mainPid 0 &&
      results.nRestarts round = results.nRestarts 0))

/-- The queries of a round fail for nobody; what they find is how the service is by then. -/
def observe (round : Nat) : Script (Host File) :=
  .tolerate (.call 0 fun host => { host with
    service := { host.service with active := results.isActive round = "active" } })

/-- The `while` loop over these rounds, and what comes after it. -/
def healthLoop (after : Bool → Script (Host File)) : List Nat → Script (Host File)
  | [] => after true
  | round :: rounds =>
    .andThen (results.observe round)
      (if results.healthy round then
        .andThen (results.call (.sleep round) id) (healthLoop after rounds)
      else after false)

/-- After a failed health check; `before` is the host as it was found and backed up. -/
def rollback (before : Host File) : Script (Host File) := .sequence
  [.tolerate (results.systemctl .stop fun service => { service with active := false }),
    if before.binary.isSome then
      results.call .restoreBinary fun host => { host with binary := before.binary }
    else results.call .removeBinary fun host => { host with binary := none },
    if before.unit.isSome then
      results.call .restoreUnit fun host => { host with unit := before.unit }
    else results.call .removeUnit fun host => { host with unit := none },
    .tolerate (results.call .reloadAgain id),
    if before.service.enabled then
      .tolerate (results.systemctl .reenable fun service => { service with enabled := true })
    else .tolerate (results.systemctl .disable fun service => { service with enabled := false }),
    if before.service.active then
      .tolerate (results.systemctl .start fun service => { service with active := true })
    else .skip,
    .exit 1]

/-- Up to the first file that is replaced. -/
def prepare (package : Package File) (before : Host File) : Script (Host File) := .sequence
  [results.call .checkConfig id,
    results.call .makeBackup id,
    if before.binary.isSome then results.call .backupBinary id else .skip,
    if before.unit.isSome then results.call .backupUnit id else .skip,
    results.call .makeDirectories id,
    if before.config.isSome then .skip else results.call .installConfig id,
    if before.config.isSome then .skip
    else results.call .moveConfig fun host => { host with config := some package.config }]

/-- From there up to the health check. -/
def replace (package : Package File) (before : Host File) : Script (Host File) := .sequence
  [results.call .installBinary id,
    results.call .moveBinary fun host => { host with binary := some package.binary },
    results.call .installUnit id,
    results.call .moveUnit fun host => { host with unit := some package.unit },
    results.call .daemonReload id,
    if before.binary.isSome then .sequence
      [results.systemctl .enable fun service => { service with enabled := true },
        results.systemctl .restart fun service => { service with active := true }]
    else results.systemctl .enableNow fun _ => { enabled := true, active := true }]

def install (package : Package File) (before : Host File) : Script (Host File) := .sequence
  [results.prepare package before,
    results.replace package before,
    results.healthLoop
      (fun healthy => if healthy then .exit 0 else results.rollback before) [0, 1, 2, 3, 4]]

end Results

end RpiDashboard.Install
