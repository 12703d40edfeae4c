import RpiDashboard.Weather.CacheRoundTripLaws
import RpiDashboard.Weather.OperationsLaws
import RpiDashboard.Weather.Restarts

/-! A restart shows what was shown before it. -/

namespace RpiDashboard.Weather

open Numeric Qt WeatherService

variable {qt : QtText} {writer : QtWriter} {snapshot : Snapshot} {config other : WeatherConfig}
  {now : QDateTime}

/-- The snapshot is of the provider and of a place that are configured. -/
def WeatherConfig.accepts (qt : QtText) (config : WeatherConfig) (snapshot : Snapshot) : Bool :=
  snapshot.provider = config.provider && config.places qt snapshot.location

section Contents

theorem Snapshot.Cacheable.of_accepts (h : snapshot.Cacheable qt other)
    (ha : config.accepts qt snapshot) : snapshot.Cacheable qt config := by
  simp only [WeatherConfig.accepts, Bool.and_eq_true, decide_eq_true_eq] at ha
  exact { h with provider := ha.1, location := ⟨h.location.1, ha.2⟩ }

theorem readCache_of_not_accepts (ha : config.accepts qt snapshot = false) :
    readCache qt config (cacheJson writer snapshot) = none := by
  refine if_neg fun hvalid => ?_
  have hplace : jsonLocation ((cacheJson writer snapshot).value "location").toObject =
      snapshot.location := jsonLocation_locationJson snapshot.location
  have hprovider : ((cacheJson writer snapshot).value "provider").toString = snapshot.provider :=
    rfl
  simp only [validHead, hplace, hprovider, Bool.and_eq_true, decide_eq_true_eq] at hvalid
  simp [WeatherConfig.accepts, hvalid] at ha

theorem readContents_eq (hw : writer.RoundTrips qt) (h : snapshot.Cacheable qt other) :
    readContents qt config (cacheContents writer snapshot) =
      readCache qt config (cacheJson writer snapshot) := by
  have hcontents : cacheContents writer snapshot =
      some (writer.toJson (.object (cacheJson writer snapshot))) := if_pos h.fetched.1
  have hstorable : (QJsonValue.object (cacheJson writer snapshot)).Storable := storable_cacheJson h
  obtain ⟨document, hdocument, halike⟩ := hw.json _ hstorable
  have hobject := halike.isObject
  cases document with
  | object root =>
    have hread : readCache qt config (QJsonValue.toObject _) = _ := readCache_eq halike config
    simp only [readContents, hcontents, Option.bind_some, hdocument]
    exact hread.symm
  | _ => cases hobject

/-- What was written is read, unless the configuration is another one meanwhile. -/
theorem readContents_written (hw : writer.RoundTrips qt) (h : snapshot.Cacheable qt other) :
    readContents qt config (cacheContents writer snapshot) =
      if config.accepts qt snapshot then some snapshot.stored else none := by
  rw [readContents_eq hw h]
  split
  case isTrue ha => exact readCache_cacheJson hw (h.of_accepts ha)
  case isFalse ha => exact readCache_of_not_accepts (Bool.eq_false_of_not_eq_true ha)

end Contents

section Stored

theorem storedTime_valid {t : QDateTime} (h : (storedTime t).isValid) :
    t.isValid ∧ storedTime t = t.wholeSeconds := by
  unfold storedTime at h ⊢
  split at h
  case isTrue hvalid => exact ⟨hvalid, if_pos hvalid⟩
  case isFalse => cases h

theorem utc_storedTime {t : QDateTime} (h : Utc t) : Utc (storedTime t) := by
  intro hvalid
  obtain ⟨ht, heq⟩ := storedTime_valid hvalid
  rw [heq]
  exact h ht

@[simp] theorem wholeSeconds_wholeSeconds (t : QDateTime) :
    t.wholeSeconds.wholeSeconds = t.wholeSeconds := by
  cases t with
  | mk msecs offsetSeconds =>
    cases msecs with
    | none => rfl
    | some msecs => simp [QDateTime.wholeSeconds]

@[simp] theorem storedTime_storedTime (t : QDateTime) :
    storedTime (storedTime t) = storedTime t := by
  unfold storedTime
  split
  case isTrue h => rw [if_pos (isValid_wholeSeconds h), wholeSeconds_wholeSeconds]
  case isFalse => rfl

/-- What the cache keeps it keeps again. -/
@[simp] theorem stored_stored (snapshot : Snapshot) : snapshot.stored.stored = snapshot.stored := by
  have hhourly : HourlyForecast.stored ∘ HourlyForecast.stored = HourlyForecast.stored := by
    funext row
    simp [HourlyForecast.stored]
  have hdaily : DailyForecast.stored ∘ DailyForecast.stored = DailyForecast.stored := by
    funext row
    simp [DailyForecast.stored]
  by_cases hkind : snapshot.todayPrecipitationKind = "" <;>
    simp [Snapshot.stored, CurrentConditions.stored, hhourly, hdaily, hkind, Function.comp_def,
      ← List.map_take, List.take_take]

@[simp] theorem stored_withTodayMaximum :
    (withTodayMaximum snapshot now).stored = snapshot.stored := rfl

theorem HourlyForecast.Cacheable.stored {row : HourlyForecast} (h : row.Cacheable) :
    row.stored.Cacheable :=
  { h with timestamp := ⟨isValid_wholeSeconds h.timestamp.1, fun _ => h.timestamp.2 h.timestamp.1⟩ }

theorem DailyForecast.Cacheable.stored {row : DailyForecast} (h : row.Cacheable) :
    row.stored.Cacheable :=
  { h with
    timestamp := ⟨isValid_wholeSeconds h.timestamp.1, fun _ => h.timestamp.2 h.timestamp.1⟩
    sunrise := utc_storedTime h.sunrise
    sunset := utc_storedTime h.sunset }

theorem Snapshot.Cacheable.stored (h : snapshot.Cacheable qt config) :
    snapshot.stored.Cacheable qt config where
  provider := h.provider
  location := h.location
  timezoneOffset := h.timezoneOffset
  fetched := ⟨isValid_wholeSeconds h.fetched.1, fun _ => h.fetched.2 h.fetched.1⟩
  sunset := utc_storedTime h.sunset
  current := { h.current with }
  hourly := by
    refine ⟨by simpa [Snapshot.stored] using h.hourly.1, List.forall_mem_map.mpr fun row hr => ?_⟩
    exact (h.hourly.2 row hr).stored
  daily row hr := by
    obtain ⟨day, hday, rfl⟩ := List.mem_map.mp (List.mem_of_mem_take hr)
    exact (h.daily day hday).stored
  airQuality airQuality hair := by
    obtain ⟨original, horiginal, rfl⟩ := Option.map_eq_some_iff.mp hair
    exact h.airQuality original horiginal

end Stored

section Kept

/-- A snapshot that the service can save, if it is one. -/
structure Snapshot.Savable (qt : QtText) (config : WeatherConfig) (snapshot : Snapshot) :
    Prop where
  cacheable : snapshot.fetchedUtc.isValid → snapshot.Cacheable qt config
  airQuality : ∀ airQuality ∈ snapshot.airQuality, IsInt airQuality.index

theorem savable_none : Snapshot.Savable qt config {} where
  cacheable h := by cases h
  airQuality _ h := by cases h

theorem Snapshot.Cacheable.savable (h : snapshot.Cacheable qt config) :
    snapshot.Savable qt config :=
  ⟨fun _ => h, h.airQuality⟩

theorem Snapshot.Savable.withTodayMaximum (h : snapshot.Savable qt config) :
    (withTodayMaximum snapshot now).Savable qt config where
  cacheable hvalid := { h.cacheable hvalid with }
  airQuality := h.airQuality

theorem Snapshot.Savable.withAirQuality (h : snapshot.Savable qt config)
    {airQuality : Option AirQuality} (hindex : ∀ a ∈ airQuality, IsInt a.index) :
    Snapshot.Savable qt config { snapshot with airQuality } where
  cacheable hvalid := { h.cacheable hvalid with airQuality := hindex }
  airQuality := hindex

theorem savable_mergeAirQuality {previous : Snapshot} (hp : previous.Savable qt config)
    (h : snapshot.Savable qt config) :
    (mergeAirQuality qt previous snapshot).Savable qt config := by
  have hnamed : Snapshot.Savable qt config
      (if snapshot.todayPrecipitationKind = "" then
        { snapshot with todayPrecipitationKind := "none" } else snapshot) := by
    split
    case isTrue => exact ⟨fun hvalid => { h.cacheable hvalid with }, h.airQuality⟩
    case isFalse => exact h
  unfold mergeAirQuality
  dsimp only
  generalize (if snapshot.todayPrecipitationKind = "" then
    { snapshot with todayPrecipitationKind := "none" } else snapshot) = named at hnamed ⊢
  split
  case isTrue => exact hnamed.withAirQuality hp.airQuality
  case isFalse => exact hnamed

/-- The providers answer with what the cache can hold. -/
def Event.Delivers (qt : QtText) (config : WeatherConfig) : Event → Prop
  | .forecastReady _ snapshot _ => snapshot.Cacheable qt config
  | .airQualityReady airQuality => IsInt airQuality.index
  | _ => True

/-- What the service is configured with, shows and has saved. -/
structure Record where
  config : WeatherConfig
  snapshot : Snapshot
  saved : List Snapshot

def WeatherService.record (service : WeatherService) : Record where
  config := service.config
  snapshot := service.snapshot
  saved := service.saved

/-- A snapshot is shown, and saved if it is one. -/
def Record.save (record : Record) (snapshot : Snapshot) : Record where
  config := record.config
  snapshot := snapshot
  saved := if snapshot.fetchedUtc.isValid then record.saved ++ [snapshot] else record.saved

/-- What a step does with them: what is shown afterwards is saved, or it is what was shown. -/
structure Record.Moves (before after : Record) : Prop where
  config : after.config = before.config
  saved : after.saved = before.saved ∧
        (after.snapshot.fetchedUtc.isValid → before.snapshot.fetchedUtc.isValid ∧
          after.snapshot.stored = before.snapshot.stored) ∨
      after.saved = before.saved ++ [after.snapshot] ∧ after.snapshot.fetchedUtc.isValid

theorem Record.moves_same (before : Record) : before.Moves before :=
  ⟨rfl, .inl ⟨rfl, fun hvalid => ⟨hvalid, rfl⟩⟩⟩

theorem Record.moves_save (before : Record) (snapshot : Snapshot) :
    before.Moves (before.save snapshot) := by
  refine ⟨rfl, ?_⟩
  by_cases hvalid : snapshot.fetchedUtc.isValid
  case pos => exact .inr ⟨if_pos hvalid, hvalid⟩
  case neg => exact .inl ⟨if_neg hvalid, fun hv => absurd hv hvalid⟩

namespace WeatherService

variable {service : WeatherService}

theorem startOperation_record {manual : Bool} :
    (service.startOperation manual).record = service.record := by
  obtain ⟨_, _, _, _, _, _, _, _, heq⟩ := service.startOperation_frame manual
  rw [heq]
  rfl

theorem scheduleLocalHourBoundary_record :
    (service.scheduleLocalHourBoundary now).record = service.record := by
  obtain ⟨_, heq⟩ := service.scheduleLocalHourBoundary_frame now
  rw [heq]
  rfl

theorem fail_record {diagnostic : QString} {authenticationFailure : Bool} {retry : Int} :
    (service.fail qt diagnostic authenticationFailure retry).record = service.record := by
  cases authenticationFailure <;> rfl

theorem setLocation_record (qt : QtText) (service : WeatherService) (location : Location)
    (now : QDateTime) : (service.setLocation qt location now).record = { service.record with
      snapshot :=
        if service.snapshot.fetchedUtc.isValid &&
            service.snapshot.location.cacheKey qt != location.cacheKey qt then {}
        else service.snapshot } := by
  unfold WeatherService.setLocation
  rw [startOperation_record]
  dsimp only
  split <;> rfl

theorem saveCache_record : service.saveCache.record = service.record.save service.snapshot := by
  unfold saveCache Record.save
  split <;> rfl

theorem airQualityReady_record {airQuality : AirQuality} :
    (service.airQualityReady airQuality).record =
      service.record.save { service.snapshot with airQuality := some airQuality } :=
  saveCache_record

theorem publish_record : (service.publish qt snapshot now).record = service.record.save
    (withTodayMaximum (mergeAirQuality qt service.snapshot snapshot) now) := by
  unfold publish
  dsimp only
  let merged := { service with snapshot := mergeAirQuality qt service.snapshot snapshot }
  obtain ⟨localHourTimer, hschedule⟩ :=
    scheduleLocalHourBoundary_frame (merged.updateTodayPrecipitationProbability now) now
  rw [hschedule, saveCache_record]
  rfl

theorem restore_record {cached : Snapshot} : (service.restore cached now).record =
    { service.record with snapshot := withTodayMaximum cached now } := by
  unfold restore
  dsimp only
  let restored := { service with snapshot := cached }
  obtain ⟨localHourTimer, hschedule⟩ :=
    scheduleLocalHourBoundary_frame (restored.updateTodayPrecipitationProbability now) now
  rw [hschedule]
  rfl

end WeatherService

namespace World

variable {w : World} {service : WeatherService} {e : Event}

/-- Every operation leaves the record, drops what is shown, or shows something else. -/
theorem Handled.moves (h : w.Handled qt e service) : w.service.record.Moves service.record := by
  cases h with
  | refresh => rw [WeatherService.refresh, startOperation_record]; exact Record.moves_same _
  | timeout => rw [startOperation_record]; exact Record.moves_same _
  | solarTimeout => exact Record.moves_same _
  | localHourTimeout =>
    rw [scheduleLocalHourBoundary_record]
    exact ⟨rfl, .inl ⟨rfl, fun hvalid => ⟨hvalid, rfl⟩⟩⟩
  | @resolved request location now =>
    rw [setLocation_record]
    refine ⟨rfl, .inl ⟨rfl, ?_⟩⟩
    dsimp only
    split
    case isTrue => exact fun hvalid => by cases hvalid
    case isFalse => exact fun hvalid => ⟨hvalid, rfl⟩
  | forecastReady => rw [publish_record]; exact Record.moves_save _ _
  | failed => rw [fail_record]; exact Record.moves_same _
  | airQualityReady => rw [airQualityReady_record]; exact Record.moves_save _ _
  | airQualityFailed => exact Record.moves_same _

theorem step_moves (w : World) (e : Event) :
    w.service.record.Moves (w.step qt e).service.record := by
  rcases step_service qt w e with hsame | hh
  · rw [hsame]
    exact Record.moves_same _
  · exact hh.moves

theorem Handled.savable (h : w.Handled qt e service) (hd : e.Delivers qt config)
    (hp : w.service.snapshot.Savable qt config) :
    service.record.snapshot.Savable qt config := by
  cases h with
  | refresh => rw [WeatherService.refresh, startOperation_record]; exact hp
  | timeout => rw [startOperation_record]; exact hp
  | solarTimeout => exact hp
  | localHourTimeout => rw [scheduleLocalHourBoundary_record]; exact hp.withTodayMaximum
  | @resolved request location now =>
    rw [setLocation_record]
    dsimp only
    split
    case isTrue => exact savable_none
    case isFalse => exact hp
  | @forecastReady request snapshot now =>
    have hcacheable : snapshot.Cacheable qt config := hd
    rw [publish_record]
    exact (savable_mergeAirQuality hp hcacheable.savable).withTodayMaximum
  | failed => rw [fail_record]; exact hp
  | @airQualityReady airQuality =>
    have hindex : IsInt airQuality.index := hd
    rw [airQualityReady_record]
    exact hp.withAirQuality fun a ha => Option.some.inj ha ▸ hindex
  | airQualityFailed => exact hp

theorem step_savable (hd : e.Delivers qt config) (hp : w.service.snapshot.Savable qt config) :
    (w.step qt e).service.snapshot.Savable qt config := by
  rcases step_service qt w e with hsame | hh
  · rw [hsame]
    exact hp
  · exact hh.savable hd hp

theorem cacheKey_of_places {location : Location} (h : config.places qt location)
    (hc : config.locationMode = .coordinates) : location.cacheKey qt =
      Location.cacheKey qt { latitude := config.latitude, longitude := config.longitude } := by
  simpa [WeatherConfig.places, hc] using h

/-- What a service shows from the start is its cache, if that is of a place it accepts. -/
theorem start_record {cached : Option Snapshot}
    (h : ∀ snapshot ∈ cached, config.places qt snapshot.location) :
    (start qt config cached now).service.record =
      { config, snapshot := (cached.map (withTodayMaximum · now)).getD {}, saved := [] } := by
  have hrestored : (restored config "" cached now).record =
      { config, snapshot := (cached.map (withTodayMaximum · now)).getD {}, saved := [] } := by
    cases cached with
    | none => rfl
    | some cached => exact restore_record
  have hsnapshot : (restored config "" cached now).snapshot = _ :=
    congrArg Record.snapshot hrestored
  rw [start, call_service]
  refine initialized_cases (P := fun service => service.record = _) (fun hd => absurd rfl hd)
    (fun hcoordinates => ?_) (startOperation_record.trans hrestored)
  rw [setLocation_record, hrestored, hsnapshot]
  cases cached with
  | none => rfl
  | some cached =>
    have hkey : (withTodayMaximum cached now).location.cacheKey qt = _ :=
      cacheKey_of_places (h cached rfl) hcoordinates
    simp [hkey]

end World

namespace Machine

variable {m : Machine} {e : Event} {commits : Bool}

/-- What holds between events: the file has been written from what is shown, unless the last write
has failed. -/
structure Kept (qt : QtText) (writer : QtWriter) (m : Machine) : Prop where
  savable : m.shown.Savable qt m.world.service.config
  file : m.file = m.written.bind (cacheContents writer)
  cacheable : ∀ snapshot ∈ m.written, ∃ config, snapshot.Cacheable qt config
  latest : m.behind = false → m.shown.fetchedUtc.isValid →
    ∃ snapshot ∈ m.written, snapshot.stored = m.shown.stored

theorem Kept.readContents (hw : writer.RoundTrips qt) (h : m.Kept qt writer)
    (config : WeatherConfig) : readContents qt config m.file =
      (m.written.filter (config.accepts qt)).map Snapshot.stored := by
  rw [h.file]
  cases hwritten : m.written with
  | none => rfl
  | some snapshot =>
    obtain ⟨other, hcacheable⟩ := h.cacheable snapshot hwritten
    rw [Option.bind_some, readContents_written hw hcacheable]
    cases ha : config.accepts qt snapshot <;> simp [Option.filter, ha]

theorem Kept.restart_record (hw : writer.RoundTrips qt) (h : m.Kept qt writer)
    (config : WeatherConfig) (now : QDateTime) :
    (m.restart qt config now).world.service.record =
      { config
        snapshot := ((m.written.filter (config.accepts qt)).map fun snapshot =>
          withTodayMaximum snapshot.stored now).getD {}
        saved := [] } := by
  have hplaces : ∀ snapshot ∈ (m.written.filter (config.accepts qt)).map Snapshot.stored,
      config.places qt snapshot.location := by
    intro snapshot hsnapshot
    obtain ⟨original, horiginal, rfl⟩ := Option.map_eq_some_iff.mp hsnapshot
    have haccepts := (Option.filter_eq_some_iff.mp horiginal).2
    simp only [WeatherConfig.accepts, Bool.and_eq_true] at haccepts
    exact haccepts.2
  rw [restart, h.readContents hw, World.start_record hplaces, Option.map_map]
  rfl

theorem Kept.restart (hw : writer.RoundTrips qt) (h : m.Kept qt writer) :
    (m.restart qt config now).Kept qt writer := by
  have hrecord := h.restart_record hw config now
  have hconfig : (m.restart qt config now).world.service.config = config :=
    congrArg Record.config hrecord
  have hshown : (m.restart qt config now).shown = _ := congrArg Record.snapshot hrecord
  refine ⟨?_, h.file, h.cacheable, fun _ => ?_⟩
  · rw [hconfig, hshown]
    cases hread : m.written.filter (config.accepts qt) with
    | none => exact savable_none
    | some snapshot =>
      obtain ⟨hwritten, haccepts⟩ := Option.filter_eq_some_iff.mp hread
      obtain ⟨other, hcacheable⟩ := h.cacheable snapshot hwritten
      exact (hcacheable.of_accepts haccepts).stored.savable.withTodayMaximum
  · rw [hshown]
    cases hread : m.written.filter (config.accepts qt) with
    | none => exact fun hvalid => by cases hvalid
    | some snapshot =>
      exact fun _ => ⟨snapshot, (Option.filter_eq_some_iff.mp hread).1, by simp⟩

theorem handle_of_unsaved (h : (m.world.step qt e).service.saved = m.world.service.saved) :
    m.handle qt writer e commits = { m with world := m.world.step qt e } := by
  simp [handle, h]

theorem handle_of_saved
    (h : (m.world.step qt e).service.saved = m.world.service.saved ++ [snapshot]) :
    m.handle qt writer e commits =
      if commits then
        { world := m.world.step qt e
          file := cacheContents writer snapshot
          written := some snapshot }
      else { m with world := m.world.step qt e, behind := true } := by
  simp [handle, h]

theorem Kept.handle (h : m.Kept qt writer) (hd : e.Delivers qt m.world.service.config) :
    (m.handle qt writer e commits).Kept qt writer := by
  have hmoves : m.world.service.record.Moves (m.world.step qt e).service.record :=
    World.step_moves m.world e
  have hconfig : (m.world.step qt e).service.config = m.world.service.config := hmoves.config
  have hsavable : (m.world.step qt e).service.snapshot.Savable qt
      (m.world.step qt e).service.config := by
    rw [hconfig]
    exact World.step_savable hd h.savable
  obtain ⟨hsaved, hstays⟩ | ⟨hsaved, hvalid⟩ := hmoves.saved
  · rw [handle_of_unsaved hsaved]
    refine ⟨hsavable, h.file, h.cacheable, fun hbehind hshown => ?_⟩
    obtain ⟨hbefore, hsame⟩ := hstays hshown
    obtain ⟨snapshot, hwritten, hstored⟩ := h.latest hbehind hbefore
    exact ⟨snapshot, hwritten, hstored.trans hsame.symm⟩
  · rw [handle_of_saved hsaved]
    cases commits with
    | false => exact ⟨hsavable, h.file, h.cacheable, fun hbehind => by cases hbehind⟩
    | true =>
      refine ⟨hsavable, rfl, fun snapshot hs => ?_, fun _ _ => ⟨_, rfl, rfl⟩⟩
      obtain rfl := Option.some.inj hs
      exact ⟨_, hsavable.cacheable hvalid⟩

theorem installed_shown : (installed qt config now).shown = {} :=
  congrArg Record.snapshot (World.start_record fun _ h => by cases h)

theorem installed_kept : (installed qt config now).Kept qt writer where
  savable := by
    rw [installed_shown]
    exact savable_none
  file := rfl
  cacheable _ h := by cases h
  latest _ hshown := by
    rw [installed_shown] at hshown
    cases hshown

/-- The events of a history are what the providers deliver. -/
def Delivers (qt : QtText) (m : Machine) : Action → Prop
  | .event e _ => e.Delivers qt m.world.service.config
  | .restart _ _ => True

theorem Kept.step (hw : writer.RoundTrips qt) {a : Action} (hd : m.Delivers qt a)
    (h : m.Kept qt writer) : (m.step qt writer a).Kept qt writer := by
  cases a with
  | event e commits => exact h.handle hd
  | restart config now => exact h.restart hw

theorem kept_run (hw : writer.RoundTrips qt) {as : List Action}
    (hd : Throughout (step qt writer) (Delivers qt) (installed qt config now) as) :
    (run (step qt writer) (installed qt config now) as).Kept qt writer :=
  hd.invariant installed_kept fun _ _ hd h => h.step hw hd

theorem accepts_congr {first second : Snapshot} (h : first.stored = second.stored) :
    config.accepts qt first = config.accepts qt second := by
  have hprovider : first.stored.provider = second.stored.provider := congrArg Snapshot.provider h
  have hlocation : first.stored.location = second.stored.location := congrArg Snapshot.location h
  exact congrArg₂ (fun provider location =>
    decide (provider = config.provider) && config.places qt location) hprovider hlocation

section Sample

/-- A forecast arrives. -/
def sampleHistory : List Action :=
  [.event (.forecastReady (.forecast samplePlace) sampleCached sampleNow) true]

theorem sampleHistory_run :
    run (step cacheText sampleWriter) (installed cacheText sampleConfig sampleNow) sampleHistory =
      { world := (World.start cacheText sampleConfig none sampleNow).step cacheText
          (.forecastReady (.forecast samplePlace) sampleCached sampleNow)
        file := cacheContents sampleWriter (withTodayMaximum sampleCached sampleNow)
        written := some (withTodayMaximum sampleCached sampleNow) } := by
  let start := World.start cacheText sampleConfig none sampleNow
  have hrequested : Request.forecast samplePlace ∈ start.outstanding := List.mem_singleton_self _
  have hrecord : (start.step cacheText
      (.forecastReady (.forecast samplePlace) sampleCached sampleNow)).service.record =
        start.service.record.save (withTodayMaximum sampleCached sampleNow) := by
    rw [World.step, if_pos ⟨hrequested, rfl⟩, World.call_service, publish_record]
    rfl
  have hsaved : (start.step cacheText
      (.forecastReady (.forecast samplePlace) sampleCached sampleNow)).service.saved =
        start.service.saved ++ [withTodayMaximum sampleCached sampleNow] :=
    congrArg Record.saved hrecord
  have hhandle : handle cacheText sampleWriter (installed cacheText sampleConfig sampleNow)
      (.forecastReady (.forecast samplePlace) sampleCached sampleNow) true = _ :=
    handle_of_saved hsaved
  exact hhandle

end Sample

end Machine

end Kept

end RpiDashboard.Weather
