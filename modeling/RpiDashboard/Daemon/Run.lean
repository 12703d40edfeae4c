import RpiDashboard.Daemon.Value
import RpiDashboard.Data.Run

/-! The daemon's loop (`run` in `daemon/src/daemon.cpp`): each pass sends a hello, waits
for the reply, and sends a snapshot if the reply reads as accepted. -/

namespace RpiDashboard.Daemon

/-- What the system answers in one pass: the name lookup and the socket may fail, the
reply may not come; the metrics are what the collector would return. -/
inductive Pass
  | unresolved : Pass
  | noSocket : Pass
  | exchange : Option (List UInt8) → Option Value → Pass

inductive Output
  | hello : List UInt8 → Output
  | snapshot : List UInt8 → Output
  | sleepFor : Int → Output

def Output.isSnapshot : Output → Bool
  | .snapshot _ => true
  | _ => false

structure Loop where
  seq : UInt64 := 0
  registered : Bool := false
  exit : Option Int := none

/-- The display name defaults to the host name. -/
def Config.withDisplayName (c : Config) (hostname : Option StdString) : Config :=
  if c.displayName = [] then { c with displayName := hostname.getD (lit "remote-device") } else c

/-- What `recv` puts in the buffer. -/
def recv (reply : Option (List UInt8)) : List UInt8 := (reply.getD []).take 2048

def readsAccepted (response : List UInt8) : Bool :=
  response.length > 0 && response.contains 0xf5

namespace Loop

variable (c : Config) (d i : Uuid) (info : Value) (once : Bool)

def pass (s : Loop) (p : Pass) : Loop × List Output :=
  if s.exit.isSome then (s, [])
  else
    match p with
    | .unresolved =>
      if once then ({ s with exit := some 1 }, []) else (s, [.sleepFor c.intervalSeconds])
    | .noSocket => (s, [])
    | .exchange reply metrics =>
      let registered := readsAccepted (recv reply)
      let s := { s with registered := registered }
      let sent := [.hello (Daemon.hello c d i info)]
      let (s, sent) :=
        if registered then
          ({ s with seq := s.seq + 1 },
            sent ++ [.snapshot (Daemon.snapshot c d i s.seq info metrics)])
        else (s, sent)
      if once then ({ s with exit := some (if registered then 0 else 1) }, sent)
      else (s, sent ++ [.sleepFor (if registered then c.intervalSeconds else 10)])

def step (s : Loop) (p : Pass) : Loop := (pass c d i info once s p).1

def output (s : Loop) (p : Pass) : List Output := (pass c d i info once s p).2

end Loop

/-- `run`: where the passes lead, and what they put out. -/
def run (config : Config) (hostname : Option StdString) (d i : Uuid) (info : Value) (once : Bool)
    (ps : List Pass) : Loop × List Output :=
  let c := config.withDisplayName hostname
  let step := Loop.step c d i info once
  (RpiDashboard.run step {} ps, emitted step (Loop.output c d i info once) {} ps)

end RpiDashboard.Daemon
