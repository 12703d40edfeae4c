import Mathlib.Data.List.Infix
import RpiDashboard.Data.Run
import RpiDashboard.Data.Script

/-! Setting a host up for the dashboard (`install/provision.sh`), which may be run again and again:
the account that it finds has to be the one that it would make. -/

namespace RpiDashboard.Install

/-- What `getent`, `id` and `passwd -S` say of an account. -/
structure Account where
  home : String
  shell : String
  primaryGroup : String
  groups : String
  passwordState : String
  deriving DecidableEq

def Account.compatible (account : Account) : Bool :=
  account.home = "/home/dashboard" && account.shell = "/usr/sbin/nologin" &&
    account.primaryGroup = "dashboard" && account.groups = "dashboard" &&
    account.passwordState = "L"

namespace Provision

structure Host where
  account : Option Account
  /-- The unit of the dashboard is enabled. -/
  enabled : Bool

/-- The commands after the checks. -/
inductive Site
  | getPasswd | groups | useradd | lock | daemonReload | enable
  deriving DecidableEq

/-- What a run of the script finds, the exit statuses of its commands, and what a command that
fails leaves. -/
structure Results where
  privileged : Bool
  machine : String
  model : Option String
  systemd : Bool
  cage : Bool
  wlrRandr : Bool
  status : Site → Nat
  /-- The lookups at the head of a pipe, which does not fail with them. -/
  findsPrimaryGroup : Bool
  findsPasswordState : Bool
  /-- The directory for homes and the state of a new password that `useradd` uses. -/
  homeBase : String
  initialState : String
  useraddLeaves : Option Account
  enableLeaves : Bool

variable (results : Results)

/-- The pattern `*"Raspberry Pi 5"*`. -/
def isPi5 (model : String) : Bool := "Raspberry Pi 5".toList <:+: model.toList

/-- The checks before anything is looked up or changed. -/
def Results.checks : Bool :=
  results.privileged && results.machine = "aarch64" && results.model.any isPi5 &&
    results.systemd && results.cage && results.wlrRandr

/-- `useradd --create-home --user-group --shell /usr/sbin/nologin dashboard`. -/
def Results.made : Account where
  home := results.homeBase ++ "/dashboard"
  shell := "/usr/sbin/nologin"
  primaryGroup := "dashboard"
  groups := "dashboard"
  passwordState := results.initialState

/-- What a command leaves. -/
def effect (site : Site) (host : Host) : Host :=
  match site with
  | .useradd =>
    { host with
      account := if results.status site = 0 then some results.made else results.useraddLeaves }
  | .lock =>
    if results.status site = 0 then
      { host with
        account := host.account.map fun account => { account with passwordState := "L" } }
    else host
  | .enable =>
    { host with enabled := if results.status site = 0 then true else results.enableLeaves }
  | _ => host

def run (sites : List Site) : Script Host := .calls results.status (effect results) sites

/-- What the script is told of an account that is there. -/
def Results.told (account : Account) : Account :=
  { account with
    primaryGroup := if results.findsPrimaryGroup then account.primaryGroup else ""
    passwordState := if results.findsPasswordState then account.passwordState else "" }

/-- The account: the one that is there, or a new one. -/
def prepareAccount : Script Host := fun host =>
  match host.account with
  | some account =>
    Script.andThen (run results [.getPasswd, .groups])
      (if (results.told account).compatible then .skip else .exit 1) host
  | none => run results [.useradd, .lock] host

def provision : Script Host :=
  if results.checks then
    .sequence [prepareAccount results, run results [.daemonReload, .enable], .exit 0]
  else .exit 1

/-- What is left after these runs. -/
def after (host : Host) (runs : List Results) : Host :=
  RpiDashboard.run (fun host results => (provision results host).1) host runs

end Provision

end RpiDashboard.Install
