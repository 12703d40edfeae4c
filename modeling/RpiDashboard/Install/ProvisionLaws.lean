import RpiDashboard.Install.Provision

/-! However often it is run and wherever a run ends, `provision.sh` can be run again: it comes to a
host that is set up, or it never changes anything. -/

namespace RpiDashboard.Install.Provision

variable {results : Results} {account : Account} {before host : Host}

/-- `useradd` as Debian has it: homes are in `/home`, an account without a password is locked, and
what fails leaves no account, or all of it. -/
structure Results.Standard (results : Results) : Prop where
  homeBase : results.homeBase = "/home"
  initialState : results.initialState = "L"
  useraddLeaves : results.useraddLeaves = none ∨ results.useraddLeaves = some results.made

/-- The host is the one to set up, and no command fails. -/
structure Results.GoesWell (results : Results) : Prop where
  checks : results.checks
  status : ∀ site, results.status site = 0
  findsPrimaryGroup : results.findsPrimaryGroup
  findsPasswordState : results.findsPasswordState

theorem compatible_iff : account.compatible ↔ account.home = "/home/dashboard" ∧
    account.shell = "/usr/sbin/nologin" ∧ account.primaryGroup = "dashboard" ∧
      account.groups = "dashboard" ∧ account.passwordState = "L" := by
  simp [Account.compatible, and_assoc]

theorem made_compatible (h : results.Standard) : results.made.compatible := by
  simp [Results.made, h.homeBase, h.initialState, Account.compatible]

theorem compatible_locked (h : account.compatible) :
    ({ account with passwordState := "L" } : Account) = account := by
  obtain ⟨-, -, -, -, hlocked⟩ := compatible_iff.mp h
  rw [← hlocked]

theorem compatible_of_told (h : (results.told account).compatible) : account.compatible := by
  obtain ⟨hhome, hshell, hprimary, hgroups, hpassword⟩ := compatible_iff.mp h
  refine compatible_iff.mpr ⟨hhome, hshell, ?_, hgroups, ?_⟩
  · simp only [Results.told] at hprimary
    split at hprimary
    · exact hprimary
    · simp at hprimary
  · simp only [Results.told] at hpassword
    split at hpassword
    · exact hpassword
    · simp at hpassword

theorem told_of_goesWell (h : results.GoesWell) : results.told account = account := by
  simp [Results.told, h.findsPrimaryGroup, h.findsPasswordState]

section Steps

/-- What is there is looked up, and nothing is changed. -/
theorem prepareAccount_some (h : host.account = some account) :
    (prepareAccount results host).1 = host ∧
      ((prepareAccount results host).2 = none → account.compatible) ∧
      (prepareAccount results host).2 ≠ some 0 := by
  have hlookups : (run results [.getPasswd, .groups] host).1 = host :=
    Script.sequence_invariant (P := fun other : Host => other = host) rfl fun p hp other ho => by
      simp only [List.map_cons, List.map_nil, List.mem_cons, List.not_mem_nil, or_false] at hp
      obtain rfl | rfl := hp <;> exact ho
  simp only [prepareAccount, h]
  cases hstatus : (run results [.getPasswd, .groups] host).2 with
  | none =>
    rw [Script.andThen_of_none hstatus, hlookups]
    split
    case isTrue htold => exact ⟨rfl, fun _ => compatible_of_told htold, nofun⟩
    case isFalse => exact ⟨rfl, nofun, by simp⟩
  | some status =>
    rw [Script.andThen_of_some hstatus]
    exact ⟨hlookups, nofun, hstatus ▸ Script.calls_ne_zero⟩

theorem prepareAccount_none (h : host.account = none) :
    prepareAccount results host = run results [.useradd, .lock] host := by
  simp only [prepareAccount, h]

theorem provision_of_checks (h : results.checks) : provision results =
    .sequence [prepareAccount results, run results [.daemonReload, .enable], .exit 0] := if_pos h

end Steps

/-- What the runs of the script can leave of a host. -/
structure Reached (before host : Host) : Prop where
  kept : ∀ account ∈ before.account, host.account = some account
  made : before.account = none → ∀ account ∈ host.account, account.compatible

theorem Reached.sameAccount (h : Reached before host) {other : Host}
    (ho : other.account = host.account) : Reached before other where
  kept account hm := ho.trans (h.kept account hm)
  made hnone account hm := h.made hnone account (ho ▸ hm)

theorem Reached.effect (h : Reached before host) (hstandard : results.Standard)
    (hnone : before.account = none) (site : Site) : Reached before (effect results site host) := by
  refine ⟨fun account hm => by simp [hnone] at hm, fun _ account hm => ?_⟩
  have hmade : ∀ account ∈ host.account, account.compatible := h.made hnone
  cases site with
  | useradd =>
    have huseradd : some account = some results.made := by
      simp only [Provision.effect] at hm
      split at hm
      · exact hm.symm
      · obtain hleaves | hleaves := hstandard.useraddLeaves
        · simp [hleaves] at hm
        · exact hm.symm.trans hleaves
    obtain rfl := Option.some.inj huseradd
    exact made_compatible hstandard
  | lock =>
    simp only [Provision.effect] at hm
    split at hm
    · obtain ⟨other, ho, rfl⟩ := Option.map_eq_some_iff.mp hm
      rw [compatible_locked (hmade other ho)]
      exact hmade other ho
    · exact hmade account hm
  | enable | daemonReload | getPasswd | groups => exact hmade account hm

theorem Reached.run (h : Reached before host) (hstandard : results.Standard)
    (hnone : before.account = none) (sites : List Site) :
    Reached before (run results sites host).1 := by
  refine Script.sequence_invariant h fun p hp host hh => ?_
  obtain ⟨site, -, rfl⟩ := List.mem_map.mp hp
  exact hh.effect hstandard hnone site

theorem run_enable_account :
    (run results [.daemonReload, .enable] host).1.account = host.account := by
  refine Script.sequence_invariant (P := fun other : Host => other.account = host.account) rfl
    fun p hp other ho => ?_
  simp only [List.map_cons, List.map_nil, List.mem_cons, List.not_mem_nil, or_false] at hp
  obtain rfl | rfl := hp <;> exact ho

theorem Reached.prepareAccount (h : Reached before host) (hstandard : results.Standard) :
    Reached before (prepareAccount results host).1 := by
  cases haccount : host.account with
  | some account =>
    rw [(prepareAccount_some haccount).1]
    exact h
  | none =>
    have hnone : before.account = none := by
      cases hbefore : before.account with
      | none => rfl
      | some account => cases haccount.symm.trans (h.kept account hbefore)
    rw [prepareAccount_none haccount]
    exact h.run hstandard hnone [.useradd, .lock]

theorem Reached.provision (h : Reached before host) (hstandard : results.Standard) :
    Reached before (provision results host).1 := by
  unfold Provision.provision
  split
  case isTrue =>
    refine Script.sequence_invariant h fun p hp host hh => ?_
    simp only [List.mem_cons, List.not_mem_nil, or_false] at hp
    obtain rfl | rfl | rfl := hp
    · exact hh.prepareAccount hstandard
    · exact hh.sameAccount run_enable_account
    · exact hh
  case isFalse => exact h

theorem reached_after {runs : List Results} (h : ∀ results ∈ runs, results.Standard) :
    Reached before (after before runs) :=
  run_invariant ⟨fun _ hm => hm, fun hnone _ hm => by simp [hnone] at hm⟩
    fun _ results hm hh => hh.provision (h results hm)

/-- An account that is not the one to make is left alone. -/
theorem provision_refused (h : host.account = some account) (hc : account.compatible = false) :
    (provision results host).1 = host ∧ (provision results host).2 ≠ some 0 := by
  have hprepared : (prepareAccount results host).1 = host ∧ _ := prepareAccount_some h
  obtain ⟨hsame, hcompatible, hstatus⟩ := hprepared
  unfold provision
  split
  case isTrue =>
    cases hprepare : (prepareAccount results host).2 with
    | none => simp [hcompatible hprepare] at hc
    | some status =>
      rw [Script.sequence_cons, Script.andThen_of_some hprepare]
      exact ⟨hsame, hprepare ▸ hstatus⟩
  case isFalse => exact ⟨rfl, by simp⟩

theorem after_refused {runs : List Results} (h : before.account = some account)
    (hc : account.compatible = false) : after before runs = before := by
  refine run_invariant (P := fun host : Host => host = before) rfl fun host results _ hh => ?_
  subst hh
  exact (provision_refused h hc).1

/-- A run in which no command fails makes the account, or keeps the one that is there. -/
theorem prepareAccount_goesWell (hwell : results.GoesWell) (hstandard : results.Standard)
    (h : ∀ account ∈ host.account, account.compatible) :
    ∃ account, account.compatible ∧ (∀ other ∈ host.account, account = other) ∧
      prepareAccount results host = ({ host with account := some account }, none) := by
  have hrun (sites : List Site) : run results sites host =
      (sites.foldl (fun host site => effect results site host) host, none) :=
    Script.calls_of_succeed fun site _ => hwell.status site
  cases haccount : host.account with
  | some account =>
    refine ⟨account, h account haccount, fun _ hm => Option.some.inj hm, ?_⟩
    simp only [prepareAccount, haccount, told_of_goesWell hwell]
    rw [Script.andThen_of_eq_none (hrun _), if_pos (h account haccount), Script.skip_apply,
      ← haccount]
    rfl
  | none =>
    refine ⟨results.made, made_compatible hstandard, nofun, ?_⟩
    rw [prepareAccount_none haccount, hrun]
    simp [effect, hwell.status, compatible_locked (made_compatible hstandard)]

theorem provision_goesWell (hwell : results.GoesWell) (hstandard : results.Standard)
    (h : ∀ account ∈ host.account, account.compatible) :
    ∃ account, account.compatible ∧ (∀ other ∈ host.account, account = other) ∧
      provision results host = ({ account := some account, enabled := true }, some 0) := by
  obtain ⟨account, hcompatible, hsame, hprepare⟩ := prepareAccount_goesWell hwell hstandard h
  refine ⟨account, hcompatible, hsame, ?_⟩
  have henable : run results [.daemonReload, .enable] { host with account := some account } =
      (_, none) := Script.calls_of_succeed fun site _ => hwell.status site
  rw [provision_of_checks hwell.checks, Script.sequence_cons, Script.andThen_of_eq_none hprepare,
    Script.sequence_cons, Script.andThen_of_eq_none henable]
  simp [effect, hwell.status]

/-- Whatever the runs before it did and wherever they ended, a run in which no command fails sets
the host up if it had no account or the right one, and the account that was there stays as it was;
and a host with another account is never changed. -/
theorem provision_settles (before : Host) (runs : List Results) (last : Results)
    (hruns : ∀ results ∈ runs, results.Standard) (hlast : last.Standard) (hwell : last.GoesWell) :
    ((provision last (after before runs)).2 = some 0 ↔
      ∀ account ∈ before.account, account.compatible) ∧
    ((provision last (after before runs)).2 = some 0 →
      (provision last (after before runs)).1.enabled ∧
        ∃ account, (provision last (after before runs)).1.account = some account ∧
          account.compatible ∧ ∀ other ∈ before.account, account = other) ∧
    ((provision last (after before runs)).2 ≠ some 0 →
      (provision last (after before runs)).1 = before) := by
  have hreached : Reached before (after before runs) := reached_after hruns
  by_cases hbefore : ∀ account ∈ before.account, account.compatible
  case pos =>
    have hafter : ∀ account ∈ (after before runs).account, account.compatible := by
      cases haccount : before.account with
      | none => exact hreached.made haccount
      | some account =>
        rw [hreached.kept account haccount]
        rintro _ ⟨⟩
        exact hbefore account haccount
    obtain ⟨account, hcompatible, hsame, hfinal⟩ := provision_goesWell hwell hlast hafter
    rw [hfinal]
    refine ⟨⟨fun _ => hbefore, fun _ => rfl⟩, fun _ => ⟨rfl, account, rfl, hcompatible, ?_⟩,
      fun hne => absurd rfl hne⟩
    exact fun other hm => hsame other (hreached.kept other hm)
  case neg =>
    simp only [not_forall, Bool.not_eq_true] at hbefore
    obtain ⟨account, hm, hc⟩ := hbefore
    have hrefused : (provision last before).1 = before ∧ _ := provision_refused hm hc
    obtain ⟨hsame, hstatus⟩ := hrefused
    rw [after_refused hm hc]
    refine ⟨⟨fun h => absurd h hstatus, fun h => ?_⟩, fun h => absurd h hstatus, fun _ => hsame⟩
    simp [h account hm] at hc

section Sample

def sampleResults : Results where
  privileged := true
  machine := "aarch64"
  model := some "Raspberry Pi 5 Model B Rev 1.0"
  systemd := true
  cage := true
  wlrRandr := true
  status _ := 0
  findsPrimaryGroup := true
  findsPasswordState := true
  homeBase := "/home"
  initialState := "L"
  useraddLeaves := none
  enableLeaves := false

/-- The account has been made, and locking it fails. -/
def interrupted : Results :=
  { sampleResults with status := fun site => if site = .lock then 1 else 0 }

def sampleHost : Host where
  account := none
  enabled := false

theorem provision_settles_sample :
    (provision sampleResults (after sampleHost [interrupted])).2 = some 0 := by
  have hstandard : sampleResults.Standard := ⟨rfl, rfl, .inl rfl⟩
  have hinterrupted : ∀ results ∈ [interrupted], results.Standard :=
    List.forall_mem_singleton.mpr ⟨rfl, rfl, .inl rfl⟩
  have hwell : sampleResults.GoesWell := ⟨by decide, fun _ => rfl, rfl, rfl⟩
  exact (provision_settles sampleHost [interrupted] sampleResults hinterrupted hstandard hwell).1.mpr
    nofun

end Sample

end RpiDashboard.Install.Provision
