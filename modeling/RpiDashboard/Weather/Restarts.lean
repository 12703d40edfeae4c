import RpiDashboard.Weather.Operations
import RpiDashboard.Weather.WeatherCache

/-! The weather service over the restarts of the dashboard.  Its cache file stays: a write replaces
it as a whole (`QSaveFile`) or fails and leaves it as it is. -/

namespace RpiDashboard.Weather

open Qt

/-- The snapshot of a cache file, if it is accepted. -/
def readContents (qt : QtText) (config : WeatherConfig) (contents : Option QByteArray) :
    Option Snapshot :=
  match contents.bind qt.fromJson with
  | some (.object root) => readCache qt config root
  | _ => none

theorem WeatherService.loadCache_eq (qt : QtText) (service : WeatherService)
    (contents : Option QByteArray) (now : QDateTime) : service.loadCache qt contents now =
      match readContents qt service.config contents with
      | some cached => service.restore cached now
      | none => service := by
  unfold loadCache readContents
  cases contents.bind qt.fromJson with
  | none => rfl
  | some document => cases document <;> rfl

/-- The service in its process, the cache file, and the snapshot that was written to it last. -/
structure Machine where
  world : World
  file : Option QByteArray := none
  written : Option Snapshot := none
  /-- The last write has failed. -/
  behind : Bool := false

namespace Machine

/-- The process takes an event and a write that follows succeeds or fails, or it ends and another
one starts. -/
inductive Action
  | event : Event → Bool → Action
  | restart : WeatherConfig → QDateTime → Action

variable (qt : QtText) (writer : QtWriter)

/-- The first start, without a cache file. -/
def installed (config : WeatherConfig) (now : QDateTime) : Machine :=
  { world := .start qt config none now }

def shown (m : Machine) : Snapshot := m.world.service.snapshot

def restart (m : Machine) (config : WeatherConfig) (now : QDateTime) : Machine :=
  { m with world := .start qt config (readContents qt config m.file) now, behind := false }

/-- What the event makes the service save is written. -/
def handle (m : Machine) (e : Event) (commits : Bool) : Machine :=
  let world := m.world.step qt e
  match (world.service.saved.drop m.world.service.saved.length).getLast? with
  | none => { m with world }
  | some snapshot =>
    if commits then
      { world, file := cacheContents writer snapshot, written := some snapshot }
    else { m with world, behind := true }

def step (m : Machine) : Action → Machine
  | .event e commits => m.handle qt writer e commits
  | .restart config now => m.restart qt config now

end Machine

end RpiDashboard.Weather
