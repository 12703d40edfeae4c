import RpiDashboard.Sysmetrics.SysMetricsService

/-! Collections: one at a time, no request for one lost, and what each leaves in the
history. -/

namespace RpiDashboard.Sysmetrics

open Numeric Protocol Qt

namespace SysMetricsService

variable {service : SysMetricsService} {e : Event} {outcome : Outcome}
  {elapsedMilliseconds : Int} {now : QDateTime}

section SingleFlight

/-- A collection is outstanding just while the state says so. -/
structure SingleFlight (service : SysMetricsService) : Prop where
  single : service.outstanding ≤ 1
  collecting : service.state = .collecting ↔ service.outstanding = 1

theorem SingleFlight.refresh (h : service.SingleFlight) : service.refresh.SingleFlight := by
  unfold SysMetricsService.refresh
  split
  case isTrue => exact ⟨h.single, h.collecting⟩
  case isFalse hstate =>
    have hnone : service.outstanding = 0 := by
      have := h.single
      have := mt h.collecting.mpr hstate
      omega
    exact ⟨by simp [hnone], by simp [hnone]⟩

theorem handOver_outstanding : service.handOver.outstanding = service.outstanding := by
  unfold handOver
  split <;> rfl

theorem handOver_state : service.handOver.state = service.state := by
  unfold handOver
  split <;> rfl

theorem collectionFinished_outstanding :
    (service.collectionFinished outcome elapsedMilliseconds now).outstanding =
      service.outstanding := by
  cases outcome with
  | result result =>
    refine handOver_outstanding.trans ?_
    unfold accept
    dsimp only
    split <;> rfl
  | exception what => exact handOver_outstanding
  | unknown => exact handOver_outstanding

/-- Each of the three exits leaves another state. -/
theorem collectionFinished_state :
    (service.collectionFinished outcome elapsedMilliseconds now).state ≠ .collecting := by
  cases outcome with
  | result result =>
    rw [collectionFinished, handOver_state, accept]
    dsimp only
    split
    · dsimp only
      split <;> nofun
    · nofun
  | exception what =>
    rw [collectionFinished, handOver_state]
    nofun
  | unknown =>
    rw [collectionFinished, handOver_state]
    nofun

theorem SingleFlight.step (h : service.SingleFlight) (e : Event) :
    (service.step e).SingleFlight := by
  cases e with
  | refresh => exact h.refresh
  | invoked =>
    simp only [SysMetricsService.step]
    split
    · have hdequeued : SingleFlight { service with queued := service.queued - 1 } :=
        ⟨h.single, h.collecting⟩
      exact hdequeued.refresh
    · exact h
  | finished outcome elapsedMilliseconds now =>
    simp only [SysMetricsService.step]
    split
    · have hnone : ({ service with outstanding := service.outstanding - 1 }.collectionFinished
          outcome elapsedMilliseconds now).outstanding = 0 := by
        have := h.single
        rw [collectionFinished_outstanding]
        dsimp only
        omega
      exact ⟨by simp [hnone], by simp [hnone, collectionFinished_state]⟩
    · exact h

/-- Work is owed: a refresh is pending, or queued. -/
def Owed (service : SysMetricsService) : Prop := service.refreshPending ∨ 0 < service.queued

theorem owed_handOver (h : service.Owed) : service.handOver.Owed := by
  unfold handOver
  split
  · exact Or.inr (Nat.succ_pos _)
  · exact h

theorem accept_owed {result : SysMetricsCollectionResult} :
    (service.accept result elapsedMilliseconds now).Owed ↔ service.Owed := by
  unfold accept
  dsimp only
  split <;> rfl

theorem Owed.collectionFinished (h : service.Owed) :
    (service.collectionFinished outcome elapsedMilliseconds now).Owed := by
  cases outcome with
  | result result => exact owed_handOver (accept_owed.mpr h)
  | exception what => exact owed_handOver h
  | unknown => exact owed_handOver h

/-- This event calls `refresh`. -/
def Calls (service : SysMetricsService) : Event → Prop
  | .refresh => True
  | .invoked => 0 < service.queued
  | .finished .. => False

theorem collectionFinished_started :
    (service.collectionFinished outcome elapsedMilliseconds now).started = service.started := by
  have hhandOver (service : SysMetricsService) : service.handOver.started = service.started := by
    unfold handOver
    split <;> rfl
  cases outcome with
  | result result =>
    refine (hhandOver _).trans ?_
    unfold accept
    dsimp only
    split <;> rfl
  | exception what => exact hhandOver _
  | unknown => exact hhandOver _

/-- A refresh starts a collection, or else work is owed. -/
theorem refresh_started (service : SysMetricsService) :
    service.started < service.refresh.started ∨
      service.refresh.started = service.started ∧ service.refresh.Owed := by
  unfold SysMetricsService.refresh
  split
  · exact Or.inr ⟨rfl, Or.inl rfl⟩
  · exact Or.inl (Nat.lt_succ_self _)

/-- What is owed stays owed until a collection starts. -/
theorem Owed.step (h : service.Owed) (e : Event) :
    service.started < (service.step e).started ∨
      (service.step e).started = service.started ∧ (service.step e).Owed := by
  cases e with
  | refresh => exact service.refresh_started
  | invoked =>
    simp only [SysMetricsService.step]
    split
    · exact refresh_started { service with queued := service.queued - 1 }
    · exact Or.inr ⟨rfl, h⟩
  | finished outcome elapsedMilliseconds now =>
    refine Or.inr ?_
    simp only [SysMetricsService.step]
    split
    · exact ⟨collectionFinished_started, Owed.collectionFinished h⟩
    · exact ⟨rfl, h⟩

theorem started_mono (service : SysMetricsService) (e : Event) :
    service.started ≤ (service.step e).started := by
  have hrefresh (service : SysMetricsService) : service.started ≤ service.refresh.started := by
    rcases service.refresh_started with h | h
    · exact h.le
    · exact h.1.ge
  cases e with
  | refresh => exact hrefresh service
  | invoked =>
    simp only [SysMetricsService.step]
    split
    · exact hrefresh { service with queued := service.queued - 1 }
    · exact le_rfl
  | finished outcome elapsedMilliseconds now =>
    simp only [SysMetricsService.step]
    split
    · rw [collectionFinished_started]
    · exact le_rfl

/-- A call while a collection is outstanding makes work owed, and starts no other. -/
theorem SingleFlight.owed (h : service.SingleFlight) (ho : service.outstanding = 1)
    (he : service.Calls e) :
    (service.step e).started = service.started ∧ (service.step e).Owed := by
  have hstate : service.state = .collecting := h.collecting.mpr ho
  have hrefresh (service : SysMetricsService) (hstate : service.state = .collecting) :
      service.refresh.started = service.started ∧ service.refresh.Owed := by
    rw [SysMetricsService.refresh, if_pos hstate]
    exact ⟨rfl, Or.inl rfl⟩
  cases e with
  | refresh => exact hrefresh service hstate
  | invoked =>
    have hqueued : 0 < service.queued := he
    simp only [SysMetricsService.step, if_pos hqueued]
    exact hrefresh { service with queued := service.queued - 1 } hstate
  | finished outcome elapsedMilliseconds now => exact he.elim

theorem Owed.run (h : service.Owed) (later : List Event) :
    let service' := RpiDashboard.run SysMetricsService.step service later
    service.started < service'.started ∨ service'.started = service.started ∧ service'.Owed := by
  refine run_invariant (P := fun s : SysMetricsService => service.started < s.started ∨
    s.started = service.started ∧ s.Owed) (Or.inr ⟨rfl, h⟩) fun s e _ hs => ?_
  rcases hs with hs | ⟨heq, hs⟩
  · exact Or.inl (hs.trans_le (s.started_mono e))
  · rw [← heq]
    exact hs.step e

theorem SingleFlight.run (es : List Event) :
    (RpiDashboard.run SysMetricsService.step new es).SingleFlight :=
  run_invariant ⟨by decide, by decide⟩ fun _ e _ h => h.step e

/-- After any run at most one collection is outstanding, just while the state is collecting;
and a refresh called meanwhile is pending or queued until the next collection starts. -/
theorem single_flight (es : List Event) :
    let service := RpiDashboard.run step new es
    service.outstanding ≤ 1 ∧ (service.state = .collecting ↔ service.outstanding = 1) ∧
      ∀ e later, service.outstanding = 1 → service.Calls e →
        let service' := RpiDashboard.run step service (e :: later)
        service'.started = service.started → service'.refreshPending ∨ 0 < service'.queued := by
  intro service
  have h : service.SingleFlight := .run es
  refine ⟨h.single, h.collecting, fun e later ho he hstarted => ?_⟩
  obtain ⟨heq, howed⟩ := h.owed ho he
  rcases howed.run later with hlater | hlater
  · exact absurd (heq.trans hstarted.symm) hlater.ne
  · exact hlater.2

end SingleFlight

section Signal

theorem handOver_shown : service.handOver.currentMetrics = service.currentMetrics ∧
    service.handOver.lastSuccessUtc = service.lastSuccessUtc := by
  unfold handOver
  split <;> exact ⟨rfl, rfl⟩

theorem refresh_shown : service.refresh.currentMetrics = service.currentMetrics ∧
    service.refresh.lastSuccessUtc = service.lastSuccessUtc := by
  unfold SysMetricsService.refresh
  split <;> exact ⟨rfl, rfl⟩

/-- The metrics and their time do not change but with the signal. -/
theorem step_shown (h : service.currentMetricsChanged e = false) :
    (service.step e).currentMetrics = service.currentMetrics ∧
      (service.step e).lastSuccessUtc = service.lastSuccessUtc := by
  cases e with
  | refresh => exact refresh_shown
  | invoked =>
    rw [SysMetricsService.step]
    split
    · exact refresh_shown
    · exact ⟨rfl, rfl⟩
  | finished outcome elapsedMilliseconds now =>
    rw [SysMetricsService.step]
    split
    case isFalse => exact ⟨rfl, rfl⟩
    case isTrue hrunning =>
      cases outcome with
      | result result =>
        have hnone : result.metrics.hasAnyValue = false := by
          simpa [currentMetricsChanged, hrunning] using h
        simp [collectionFinished, accept, hnone, handOver_shown]
      | exception what => exact handOver_shown
      | unknown => exact handOver_shown

end Signal

end SysMetricsService

section History

/-- The values of a collection, if it has any. -/
def Outcome.produced : Outcome → Option SystemMetrics
  | .result r => if r.metrics.hasAnyValue then some r.metrics else none
  | _ => none

/-- What the history should get: the ratios that were produced, or a gap. -/
def Outcome.sample (outcome : Outcome) (elapsedMilliseconds : Int) : Sample :=
  match outcome.produced with
  | some metrics =>
    { elapsedMilliseconds
      cpuUsageRatio := metrics.cpu.usageRatio
      memoryUsageRatio := memoryUsageRatio metrics.memory }
  | none => { elapsedMilliseconds }

/-- The collection does not throw, and has no CPU ratio unless it has a usable value. -/
def Outcome.Returns : Outcome → Prop
  | .result r => r.metrics.hasAnyValue ∨ r.metrics.cpu.usageRatio = none
  | _ => False

theorem memoryUsageRatio_of_no_value {metrics : SystemMetrics} (h : metrics.hasAnyValue = false) :
    memoryUsageRatio metrics.memory = none := by
  have htotal : metrics.memory.totalBytes = none := by
    simp only [SystemMetrics.hasAnyValue, Bool.or_eq_false_iff] at h
    simpa using h.1.1.1.1.1.1.1.1.1.1.2
  simp [memoryUsageRatio, htotal]

namespace SysMetricsService

variable {service : SysMetricsService} {outcome : Outcome} {elapsedMilliseconds : Int}
  {now : QDateTime}

@[simp] theorem handOver_usageHistoryModel :
    service.handOver.usageHistoryModel = service.usageHistoryModel := by
  unfold handOver
  split <;> rfl

theorem handOver_success :
    service.handOver.currentMetrics = service.currentMetrics ∧
      service.handOver.lastSuccessUtc = service.lastSuccessUtc := by
  unfold handOver
  split <;> exact ⟨rfl, rfl⟩

theorem accept_usageHistoryModel {result : SysMetricsCollectionResult} :
    (service.accept result elapsedMilliseconds now).usageHistoryModel =
      service.usageHistoryModel.appendSample
        { elapsedMilliseconds
          cpuUsageRatio := result.metrics.cpu.usageRatio
          memoryUsageRatio := memoryUsageRatio result.metrics.memory } := by
  unfold accept
  dsimp only
  split <;> rfl

theorem refresh_usageHistoryModel :
    service.refresh.usageHistoryModel = service.usageHistoryModel := by
  unfold refresh
  split <;> rfl

/-- The sample of a result is the one that the history should get, unless there is a CPU
ratio and no usable value. -/
theorem collectionFinished_records_iff :
    (service.collectionFinished outcome elapsedMilliseconds now).usageHistoryModel =
      service.usageHistoryModel.appendSample (outcome.sample elapsedMilliseconds) ↔
        outcome.Returns := by
  cases outcome with
  | result result =>
    rw [collectionFinished, handOver_usageHistoryModel, accept_usageHistoryModel]
    refine (SystemMetricHistoryModel.appendSample_inj ?_).trans ?_
    · unfold Outcome.sample
      split <;> rfl
    · cases hvalue : result.metrics.hasAnyValue with
      | true => simp [Outcome.sample, Outcome.produced, Outcome.Returns, hvalue]
      | false =>
        simp [Outcome.sample, Outcome.produced, Outcome.Returns, hvalue,
          memoryUsageRatio_of_no_value hvalue]
  | exception what =>
    rw [collectionFinished, handOver_usageHistoryModel]
    exact ⟨fun h => SystemMetricHistoryModel.appendSample_ne_self h.symm, False.elim⟩
  | unknown =>
    rw [collectionFinished, handOver_usageHistoryModel]
    exact ⟨fun h => SystemMetricHistoryModel.appendSample_ne_self h.symm, False.elim⟩

theorem collectionFinished_success (h : outcome.produced = none) :
    (service.collectionFinished outcome elapsedMilliseconds now).currentMetrics =
        service.currentMetrics ∧
      (service.collectionFinished outcome elapsedMilliseconds now).lastSuccessUtc =
        service.lastSuccessUtc := by
  cases outcome with
  | result result =>
    have hvalue : result.metrics.hasAnyValue = false := by
      simpa [Outcome.produced] using h
    have haccept : (service.accept result elapsedMilliseconds now).currentMetrics =
          service.currentMetrics ∧
        (service.accept result elapsedMilliseconds now).lastSuccessUtc =
          service.lastSuccessUtc := by
      simp [accept, hvalue]
    exact ⟨handOver_success.1.trans haccept.1, handOver_success.2.trans haccept.2⟩
  | exception what => exact handOver_success
  | unknown => exact handOver_success

/-- A completed attempt appends its sample, and nothing else changes the history; a failed
one leaves the last success in place. -/
def Records (service : SysMetricsService) : Event → Prop
  | .finished outcome elapsedMilliseconds now => 0 < service.outstanding →
    let service' := service.step (.finished outcome elapsedMilliseconds now)
    service'.usageHistoryModel =
        service.usageHistoryModel.appendSample (outcome.sample elapsedMilliseconds) ∧
      (outcome.produced = none → service'.currentMetrics = service.currentMetrics ∧
        service'.lastSuccessUtc = service.lastSuccessUtc)
  | e => (service.step e).usageHistoryModel = service.usageHistoryModel

def Returns (service : SysMetricsService) : Event → Prop
  | .finished outcome _ _ => 0 < service.outstanding → outcome.Returns
  | _ => True

theorem records_iff (service : SysMetricsService) (e : Event) :
    service.Records e ↔ service.Returns e := by
  cases e with
  | refresh => exact iff_true_intro refresh_usageHistoryModel
  | invoked =>
    refine iff_true_intro ?_
    simp only [Records, step]
    split
    · exact refresh_usageHistoryModel
    · rfl
  | finished outcome elapsedMilliseconds now =>
    refine imp_congr_right fun ho => ?_
    simp only [step, if_pos ho]
    exact (and_iff_left collectionFinished_success).trans collectionFinished_records_iff

/-- Every attempt is recorded just in the runs in which none throws, nor has a CPU ratio
and no usable value. -/
theorem attempts_recorded_iff (es : List Event) :
    Throughout step Records new es ↔ Throughout step Returns new es := by
  have heq : Records = Returns := by
    funext service e
    exact propext (records_iff service e)
  rw [heq]

/-- An exception leaves no sample. -/
theorem exception_not_recorded :
    ¬ Throughout step Records new
      [.invoked, .finished (.exception "read failed") 1000 { msecs := some 1750000000000 }] := by
  intro h
  have hreturns := (records_iff (new.step .invoked) _).mp h.2.1
  exact hreturns (by decide)

end SysMetricsService

end History

end RpiDashboard.Sysmetrics
