import RpiDashboard.Weather.Replies
import RpiDashboard.Weather.RestartLaws

/-! What is shown is the weather of the place that the service has resolved. -/

namespace RpiDashboard.Weather

open Numeric Qt WeatherService

variable {qt : QtText} {number : QString → Option Double} {toInt : QString → Option Int32}
  {location : Location} {reply : Reply} {now : QDateTime}

section Events

theorem parseOneCall_location {document : QJsonValue} {snapshot : Snapshot}
    (h : parseOneCall document location now = .ok snapshot) : snapshot.location = location := by
  simp only [parseOneCall, bind_eq_ok] at h
  obtain ⟨_, -, _, -, _, -, h⟩ := h
  obtain rfl := Except.ok.inj h
  rfl

/-- Every end of a reply is a failure unless its body has come whole and can be read. -/
theorem Reply.finished_induction {α : Type} {parse : QJsonValue → Except QString α}
    {exceeded failure invalid : Event} {ready : α → Event} {P : Event → Prop}
    (hexceeded : P exceeded) (hfailure : P failure) (hinvalid : P invalid)
    (hready : ∀ document ∈ reply.content qt, ∀ a, parse document = .ok a → P (ready a)) :
    P (reply.finished qt parse exceeded failure invalid ready) := by
  unfold Reply.finished
  split
  case isTrue => exact hexceeded
  case isFalse hlimit =>
    split
    case isTrue => exact hfailure
    case isFalse hfailed =>
      have hcontent : replyDocument qt reply.body ∈ reply.content qt := by
        simp [Reply.content, hlimit, hfailed]
      split
      case h_1 a hparse => exact hready _ hcontent a hparse
      case h_2 => exact hinvalid

/-- The signals of the providers that report a failure. -/
inductive Event.IsFailure : Event → Prop
  | failed (request : Request) (diagnostic : QString) (authenticationFailure : Bool) (retry : Int) :
    IsFailure (.failed request diagnostic authenticationFailure retry)
  | airQualityFailed (diagnostic : QString) : IsFailure (.airQualityFailed diagnostic)

theorem handleNetworkFailure_isFailure {request : Request} {diagnostic : QString} {status : Int}
    {retryAfter : QByteArray} {airQuality : Bool} :
    (handleNetworkFailure toInt request diagnostic status retryAfter airQuality).IsFailure := by
  cases airQuality with
  | true => exact .airQualityFailed _
  | false => exact .failed _ _ _ _

/-- The forecast that an event brings is of the place that was asked for. -/
def Event.IsPlaced (e : Event) : Prop :=
  ∀ request snapshot now, e = .forecastReady request snapshot now →
    request = .forecast snapshot.location

theorem Event.IsFailure.isPlaced {e : Event} (h : e.IsFailure) : e.IsPlaced := by
  rintro _ _ _ rfl
  cases h

theorem event_isPlaced (arrival : Arrival) : (arrival.event qt number toInt).IsPlaced := by
  cases arrival with
  | forecast location reply now =>
    have hready : ∀ document snapshot, parseOneCall document location now = .ok snapshot →
        (Event.forecastReady (.forecast location) snapshot now).IsPlaced := by
      rintro document snapshot hparse _ _ _ ⟨⟩
      rw [parseOneCall_location hparse]
    exact Reply.finished_induction (P := Event.IsPlaced) (Event.IsFailure.failed _ _ _ _).isPlaced
      handleNetworkFailure_isFailure.isPlaced (Event.IsFailure.failed _ _ _ _).isPlaced
      fun document _ => hready document
  | airQuality location reply =>
    exact Reply.finished_induction (P := Event.IsPlaced) (Event.IsFailure.airQualityFailed _).isPlaced
      handleNetworkFailure_isFailure.isPlaced (Event.IsFailure.airQualityFailed _).isPlaced
      fun _ _ _ _ _ _ _ => nofun
  | geocoding city reply now =>
    exact Reply.finished_induction (P := Event.IsPlaced) (Event.IsFailure.failed _ _ _ _).isPlaced
      (Event.IsFailure.failed _ _ _ _).isPlaced (Event.IsFailure.failed _ _ _ _).isPlaced
      fun _ _ _ _ _ _ _ => nofun
  | located reply now =>
    exact Reply.finished_induction (P := Event.IsPlaced) (Event.IsFailure.failed _ _ _ _).isPlaced
      (Event.IsFailure.failed _ _ _ _).isPlaced (Event.IsFailure.failed _ _ _ _).isPlaced
      fun _ _ _ _ _ _ _ => nofun
  | refresh | timeout | solarTimeout _ | localHourTimeout _ =>
    rintro _ _ _ ⟨⟩

theorem failure_of_unreadable {arrival : Arrival} (h : arrival.Unreadable qt number) :
    (arrival.event qt number toInt).IsFailure := by
  cases arrival with
  | forecast location reply now =>
    exact Reply.finished_induction (P := Event.IsFailure) (.failed _ _ _ _)
      handleNetworkFailure_isFailure (.failed _ _ _ _)
      fun document hd snapshot hparse => absurd hparse (h document hd snapshot)
  | airQuality location reply =>
    exact Reply.finished_induction (P := Event.IsFailure) (.airQualityFailed _)
      handleNetworkFailure_isFailure (.airQualityFailed _)
      fun document hd airQuality hparse => absurd hparse (h document hd airQuality)
  | geocoding city reply now =>
    exact Reply.finished_induction (P := Event.IsFailure) (.failed _ _ _ _) (.failed _ _ _ _)
      (.failed _ _ _ _) fun document hd location hparse => absurd hparse (h document hd location)
  | located reply now =>
    exact Reply.finished_induction (P := Event.IsFailure) (.failed _ _ _ _) (.failed _ _ _ _)
      (.failed _ _ _ _) fun document hd location hparse => absurd hparse (h document hd location)
  | refresh | timeout | solarTimeout _ | localHourTimeout _ => exact h.elim

end Events

section Places

/-- The place of the service, what is asked of the providers and what is shown agree. -/
structure Agrees (qt : QtText) (service : WeatherService) (outstanding : List Request)
    (airs : List Location) : Prop where
  located : service.locationResolved →
    (∀ request ∈ outstanding, request = .forecast service.location) ∧
      ∀ place ∈ airs, place = service.location
  unlocated : service.locationResolved = false →
    (∀ request ∈ outstanding, request.isForecast = false) ∧ airs = []
  shown : service.locationResolved → service.snapshot.fetchedUtc.isValid →
    service.snapshot.location.cacheKey qt = service.location.cacheKey qt

variable {service other : WeatherService} {outstanding fewer : List Request}
  {airs fewerAirs : List Location}

/-- What is answered is no longer asked for. -/
theorem Agrees.answered (h : Agrees qt service outstanding airs) (ho : fewer ⊆ outstanding)
    (ha : fewerAirs ⊆ airs) : Agrees qt service fewer fewerAirs where
  located hresolved :=
    ⟨fun request hr => (h.located hresolved).1 request (ho hr),
      fun place hp => (h.located hresolved).2 place (ha hp)⟩
  unlocated hresolved :=
    ⟨fun request hr => (h.unlocated hresolved).1 request (ho hr),
      List.subset_nil.mp ((h.unlocated hresolved).2 ▸ ha)⟩
  shown := h.shown

/-- The place stays, and something else of it may be shown. -/
theorem Agrees.showing (h : Agrees qt service outstanding airs)
    (hp : other.placement = service.placement)
    (hs : service.locationResolved → other.snapshot.fetchedUtc.isValid →
      other.snapshot.location.cacheKey qt = service.location.cacheKey qt) :
    Agrees qt other outstanding airs := by
  simp only [WeatherService.placement, Prod.mk.injEq] at hp
  obtain ⟨hlocation, hresolved, -⟩ := hp
  constructor
  · rw [hresolved, hlocation]
    exact h.located
  · rw [hresolved]
    exact h.unlocated
  · rw [hresolved, hlocation]
    exact hs

theorem Agrees.same (h : Agrees qt service outstanding airs)
    (hp : other.placement = service.placement) (hr : other.record = service.record) :
    Agrees qt other outstanding airs := by
  have hsnapshot : other.snapshot = service.snapshot := congrArg Record.snapshot hr
  refine h.showing hp ?_
  rw [hsnapshot]
  exact h.shown

/-- The next operation asks for the place, or for the weather there. -/
theorem Agrees.asking (h : Agrees qt service outstanding airs) :
    Agrees qt service (outstanding ++ [service.nextRequest])
      (airs ++ service.nextRequest.place.toList) := by
  cases hresolved : service.locationResolved with
  | true =>
    obtain ⟨hrequests, hairs⟩ := h.located hresolved
    have hnext : service.nextRequest = .forecast service.location := if_pos hresolved
    rw [hnext]
    refine ⟨fun _ => ⟨?_, ?_⟩, fun hf => by simp [hresolved] at hf, h.shown⟩
    · exact List.forall_mem_append.mpr ⟨hrequests, List.forall_mem_singleton.mpr rfl⟩
    · exact List.forall_mem_append.mpr ⟨hairs, List.forall_mem_singleton.mpr rfl⟩
  | false =>
    obtain ⟨hrequests, hairs⟩ := h.unlocated hresolved
    have hnext : service.nextRequest.isForecast = false ∧ service.nextRequest.place = none := by
      unfold WeatherService.nextRequest
      rw [if_neg (by simp [hresolved])]
      split <;> exact ⟨rfl, rfl⟩
    refine ⟨fun ht => by simp [hresolved] at ht, fun _ => ⟨?_, ?_⟩, h.shown⟩
    · exact List.forall_mem_append.mpr ⟨hrequests, List.forall_mem_singleton.mpr hnext.1⟩
    · rw [hairs, hnext.2]
      rfl

theorem startOperation_place {manual : Bool} :
    (service.startOperation manual).location = service.location ∧
      (service.startOperation manual).locationResolved = service.locationResolved := by
  obtain ⟨_, _, _, _, _, _, _, _, heq⟩ := service.startOperation_frame manual
  rw [heq]
  exact ⟨rfl, rfl⟩

theorem startOperation_requests {manual : Bool} :
    (service.startOperation manual).requests = service.requests ∨
      (service.startOperation manual).requests = service.requests ++ [service.nextRequest] := by
  by_cases hidle : service.inFlight ∨ manual = false ∧ service.authenticationStopped
  case pos =>
    rw [startOperation_idle hidle]
    exact .inl rfl
  case neg =>
    simp only [not_or, not_and, Bool.not_eq_true] at hidle
    have hmanual : manual ∨ service.authenticationStopped = false := by
      cases manual with
      | true => exact .inl rfl
      | false => exact .inr (hidle.2 rfl)
    exact .inr (congrArg Control.requests (startOperation_control hidle.1 hmanual))

theorem Agrees.startOperation {manual : Bool} (h : Agrees qt service outstanding airs) :
    Agrees qt (service.startOperation manual) outstanding airs := by
  have hlocation : (service.startOperation manual).location = service.location :=
    startOperation_place.1
  have hresolved : (service.startOperation manual).locationResolved = service.locationResolved :=
    startOperation_place.2
  have hsnapshot : (service.startOperation manual).snapshot = service.snapshot :=
    congrArg Record.snapshot startOperation_record
  constructor
  · rw [hresolved, hlocation]
    exact h.located
  · rw [hresolved]
    exact h.unlocated
  · rw [hresolved, hlocation, hsnapshot]
    exact h.shown

end Places

namespace Client

variable {c : Client} {w : World} {service : WeatherService}

def Local (qt : QtText) (c : Client) : Prop :=
  Agrees qt c.world.service c.world.outstanding c.airs

theorem local_settled (hw : w.service.requests = c.world.service.requests)
    (hr : service.requests = w.service.requests) (h : Agrees qt service w.outstanding c.airs) :
    (c.next (w.call service)).Local qt := by
  have hairs : (c.next (w.call service)).airs = c.airs := by
    simp [next, hr, hw]
  rw [Local, hairs, next, World.call_outstanding_same hr]
  exact h

theorem local_started {manual : Bool} (hw : w.service.requests = c.world.service.requests)
    (hr : service.requests = w.service.requests) (h : Agrees qt service w.outstanding c.airs) :
    (c.next (w.call (service.startOperation manual))).Local qt := by
  have hrequests : (service.startOperation manual).requests = service.requests ∨
      (service.startOperation manual).requests = service.requests ++ [service.nextRequest] :=
    startOperation_requests
  rcases hrequests with hsame | hmore
  · exact local_settled hw (hsame.trans hr) h.startOperation
  · rw [hr] at hmore
    have hairs : (c.next (w.call (service.startOperation manual))).airs =
        c.airs ++ service.nextRequest.place.toList := by
      simp [next, hmore, hw, List.filterMap_cons]
      cases service.nextRequest.place <;> rfl
    rw [Local, hairs, next, World.call_outstanding hmore]
    exact h.asking.startOperation

theorem next_self : c.next c.world = c := by
  simp [next]

theorem mergeAirQuality_location {previous snapshot : Snapshot} :
    (mergeAirQuality qt previous snapshot).location = snapshot.location := by
  unfold mergeAirQuality
  dsimp only
  have hnamed : (if snapshot.todayPrecipitationKind = "" then
      { snapshot with todayPrecipitationKind := "none" } else snapshot).location =
        snapshot.location := by
    split <;> rfl
  generalize (if snapshot.todayPrecipitationKind = "" then
    { snapshot with todayPrecipitationKind := "none" } else snapshot) = named at hnamed ⊢
  split <;> exact hnamed

/-- A place is resolved while nothing is asked for. -/
theorem local_placed (hw : w.service.requests = c.world.service.requests)
    (hr : service.requests = w.service.requests) (ho : w.outstanding = []) (ha : c.airs = [])
    (location : Location) : (c.next (w.call (service.setLocation qt location now))).Local qt := by
  unfold WeatherService.setLocation
  dsimp only
  refine local_started hw (by split <;> exact hr) ?_
  rw [ho, ha]
  split
  case isTrue =>
    exact ⟨fun _ => ⟨nofun, nofun⟩, nofun, fun _ hvalid => by cases hvalid⟩
  case isFalse hkeep =>
    refine ⟨fun _ => ⟨nofun, nofun⟩, nofun, fun _ hvalid => ?_⟩
    by_contra hkey
    exact hkeep (Bool.and_eq_true_iff.mpr ⟨hvalid, bne_iff_ne.mpr hkey⟩)

theorem Local.resolved (h : c.Local qt) (hsound : c.world.Sound) {request : Request}
    (hr : request ∈ c.world.outstanding ∧ !request.isForecast) :
    (c.next ((c.world.answered request).call
      (c.world.service.setLocation qt location now))).Local qt := by
  have hunlocated : c.world.service.locationResolved = false := by
    by_contra hlocated
    have hforecast := (h.located (Bool.eq_true_of_not_eq_false hlocated)).1 request hr.1
    simp [hforecast, Request.isForecast] at hr
  have hempty : (c.world.answered request).outstanding = [] := hsound.answered_outstanding hr.1
  exact local_placed (w := c.world.answered request) rfl rfl hempty (h.unlocated hunlocated).2
    location

theorem Local.forecastReady (h : c.Local qt) {snapshot : Snapshot}
    (hr : .forecast snapshot.location ∈ c.world.outstanding) :
    (c.next ((c.world.answered (.forecast snapshot.location)).call
      (c.world.service.publish qt snapshot now))).Local qt := by
  have hlocated : c.world.service.locationResolved = true := by
    by_contra hunlocated
    have hforecast := (h.unlocated (Bool.eq_false_of_not_eq_true hunlocated)).1 _ hr
    simp [Request.isForecast] at hforecast
  have hplace : snapshot.location = c.world.service.location :=
    Request.forecast.inj ((h.located hlocated).1 _ hr)
  have hpublish : (c.world.service.publish qt snapshot now).placement = c.world.service.placement :=
    publish_placement
  refine local_settled rfl (congrArg (fun placement => placement.2.2) hpublish) ?_
  refine (h.answered List.erase_subset (List.Subset.refl _)).showing hpublish fun _ _ => ?_
  have hshown : (c.world.service.publish qt snapshot now).snapshot.location =
      snapshot.location := by
    rw [publish_snapshot]
    exact mergeAirQuality_location
  rw [hshown, hplace]

theorem Local.event (h : c.Local qt) (hsound : c.world.Sound) {e : Event} (he : e.IsPlaced) :
    (c.next (c.world.step qt e)).Local qt := by
  cases e with
  | refresh => exact local_started rfl rfl h
  | timeout =>
    simp only [World.step]
    split
    case isTrue => exact local_started rfl rfl (h.same rfl rfl)
    case isFalse => rwa [next_self]
  | solarTimeout now =>
    simp only [World.step]
    split
    case isTrue => exact local_settled rfl rfl (h.same rfl rfl)
    case isFalse => rwa [next_self]
  | localHourTimeout now =>
    simp only [World.step]
    split
    case isTrue =>
      let updated := c.world.service.updateTodayPrecipitationProbability now
      have hupdated : (updated.scheduleLocalHourBoundary now).placement = updated.placement :=
        scheduleLocalHourBoundary_placement
      refine local_settled rfl (congrArg (fun placement => placement.2.2) hupdated) ?_
      refine h.showing hupdated fun hresolved hvalid => ?_
      rw [scheduleLocalHourBoundary_snapshot] at hvalid ⊢
      exact h.shown hresolved hvalid
    case isFalse => rwa [next_self]
  | resolved request location now =>
    simp only [World.step]
    split
    case isTrue hr => exact h.resolved hsound hr
    case isFalse => rwa [next_self]
  | forecastReady request snapshot now =>
    simp only [World.step]
    split
    case isTrue hr =>
      obtain rfl := he request snapshot now rfl
      exact h.forecastReady hr.1
    case isFalse => rwa [next_self]
  | failed request diagnostic authenticationFailure retry =>
    simp only [World.step]
    split
    case isTrue =>
      have hfail : (c.world.service.fail qt diagnostic authenticationFailure retry).placement =
          c.world.service.placement := fail_placement diagnostic authenticationFailure retry
      refine local_settled rfl (congrArg (fun placement => placement.2.2) hfail) ?_
      exact (h.answered List.erase_subset (List.Subset.refl _)).same hfail fail_record
    case isFalse => rwa [next_self]
  | airQualityReady airQuality =>
    have hready : (c.world.service.airQualityReady airQuality).placement =
        c.world.service.placement := saveCache_placement
    refine local_settled rfl (congrArg (fun placement => placement.2.2) hready) ?_
    refine h.showing hready fun hresolved hvalid => ?_
    rw [airQualityReady_snapshot] at hvalid ⊢
    exact h.shown hresolved hvalid
  | airQualityFailed diagnostic => exact local_settled rfl rfl (h.same rfl rfl)

theorem Local.step (h : c.Local qt) (hsound : c.world.Sound) (arrival : Arrival) :
    (c.step qt number toInt arrival).Local qt := by
  have hevent : (c.next (c.world.step qt (arrival.event qt number toInt))).Local qt :=
    h.event hsound (event_isPlaced arrival)
  cases arrival with
  | airQuality location reply =>
    simp only [Client.step]
    split
    case isTrue =>
      let answered : Client := { c with airs := c.airs.erase location }
      have hanswered : answered.Local qt := Agrees.answered h (List.Subset.refl _) List.erase_subset
      exact hanswered.event hsound (event_isPlaced (.airQuality location reply))
    case isFalse => exact h
  | _ => exact hevent

theorem step_sound (hsound : c.world.Sound) (arrival : Arrival) :
    (c.step qt number toInt arrival).world.Sound := by
  have hevent : (c.world.step qt (arrival.event qt number toInt)).Sound := hsound.step _
  cases arrival with
  | airQuality location reply =>
    simp only [Client.step]
    split
    case isTrue => exact hevent
    case isFalse => exact hsound
  | _ => exact hevent

variable {config : WeatherConfig} {cached : Option Snapshot}

theorem start_local : (start qt config cached now).Local qt := by
  let unasked : Client := { world := { service := { config } } }
  have hstart : start qt config cached now = unasked.next
      (unasked.world.call (.initialized qt config "" cached now)) := by
    simp [start, next, World.start, unasked]
  have hrestored : (restored config "" cached now).placement =
      ({ config } : WeatherService).placement := by
    cases cached with
    | none => rfl
    | some cached => exact restore_placement
  simp only [WeatherService.placement, Prod.mk.injEq] at hrestored
  obtain ⟨-, hunlocated, hrequests⟩ := hrestored
  rw [hstart]
  refine initialized_cases
    (P := fun service => (unasked.next (unasked.world.call service)).Local qt)
    (fun hd => absurd rfl hd) (fun _ => local_placed rfl hrequests rfl rfl _)
    (local_started rfl hrequests
      ⟨fun hlocated => ?_, fun _ => ⟨List.forall_mem_nil _, rfl⟩, fun hlocated => ?_⟩)
  · simp [hunlocated] at hlocated
  · simp [hunlocated] at hlocated

theorem snapshot_of_failure {e : Event} (h : e.IsFailure) :
    (w.step qt e).service.snapshot = w.service.snapshot := by
  cases h with
  | failed request diagnostic authenticationFailure retry =>
    simp only [World.step]
    split
    case isTrue => exact congrArg Record.snapshot fail_record
    case isFalse => rfl
  | airQualityFailed => rfl

theorem snapshot_of_unreadable {arrival : Arrival} (h : arrival.Unreadable qt number) :
    (c.step qt number toInt arrival).world.service.snapshot = c.world.service.snapshot := by
  have hevent : (c.world.step qt (arrival.event qt number toInt)).service.snapshot = _ :=
    snapshot_of_failure (failure_of_unreadable h)
  cases arrival with
  | airQuality location reply =>
    simp only [Client.step]
    split
    case isTrue => exact hevent
    case isFalse => rfl
  | _ => exact hevent

end Client

end RpiDashboard.Weather
