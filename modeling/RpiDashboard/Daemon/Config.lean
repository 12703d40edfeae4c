import RpiDashboard.Daemon.Text

/-! `parse_config` (`daemon/src/daemon.cpp`). -/

namespace RpiDashboard.Daemon

/-- What is thrown, with its message. -/
abbrev Parsed := Except StdString

/-- `std::from_chars` into an `int`, up to the end. -/
def fromCharsInt (raw : StdString) : Option Int :=
  let (negative, digits) :=
    match raw with
    | 0x2d :: digits => (true, digits)
    | digits => (false, digits)
  let v : Int := if negative then -decimal digits else decimal digits
  if numeric digits ∧ -2 ^ 31 ≤ v ∧ v < 2 ^ 31 then some v else none

section Values

/-- What stands between the first and the last character. -/
def inner (raw : StdString) : StdString := (raw.drop 1).take (raw.length - 2)

def quoted (raw : StdString) : Parsed StdString :=
  if raw.length < 2 ∨ raw.head? ≠ some 0x22 ∨ raw.getLast? ≠ some 0x22 then
    .error (lit "expected quoted string")
  else if (inner raw).any fun c => c = 0x5c || c = 0x0a || c = 0x0d then
    .error (lit "unsupported string escape")
  else .ok (inner raw)

def integer (raw : StdString) (low high : Int) (message : String) : Parsed Int :=
  match fromCharsInt raw with
  | none => .error (lit "expected integer")
  | some v => if v < low ∨ high < v then .error (lit message) else .ok v

def assignValue (c : Config) (key raw : StdString) : Parsed Config :=
  if key = lit "dashboard.host" then do
    return { c with host := ← quoted raw }
  else if key = lit "telemetry.display_name" then do
    return { c with displayName := ← quoted raw }
  else if key = lit "dashboard.port" then do
    let v ← integer raw 1 65535 "port must be 1..65535"
    return { c with port := UInt16.ofInt v }
  else if key = lit "telemetry.interval_seconds" then do
    return { c with intervalSeconds := ← integer raw 1 5 "interval must be 1..5" }
  else .error (lit "unknown key: " ++ key)

end Values

/-- What is known after some lines: the values so far, the section and the keys seen. -/
structure Parsing where
  c : Config := { host := [], displayName := [] }
  sectionName : StdString := []
  seen : List StdString := []

def headerLine (line : StdString) : Bool := line.head? = some 0x5b && line.getLast? = some 0x5d

/-- One line, trimmed. -/
def parseLine (p : Parsing) (line : StdString) : Parsed Parsing :=
  if line = [] ∨ line.head? = some 0x23 then .ok p
  else if headerLine line then
    if inner line ≠ lit "dashboard" ∧ inner line ≠ lit "telemetry" then
      .error (lit "unknown section")
    else .ok { p with sectionName := inner line }
  else
    match cut 0x3d line with
    | none => .error (lit "malformed configuration")
    | some (name, value) =>
      if p.sectionName = [] then .error (lit "malformed configuration")
      else
        let key := p.sectionName ++ lit "." ++ trim name
        if key ∈ p.seen then .error (lit "duplicate key: " ++ key)
        else do
          let c ← assignValue p.c key (trim value)
          return { p with c := c, seen := key :: p.seen }

def parseLines (p : Parsing) (lines : List StdString) : Parsed Parsing :=
  lines.foldlM (fun p line => parseLine p (trim line)) p

def parseConfig (input : StdString) : Parsed Config :=
  if !utf8 input then .error (lit "configuration is not valid UTF-8")
  else do
    let p ← parseLines {} (input.splitOn 0x0a)
    if p.c.host = [] then .error (lit "dashboard.host is required")
    else if 128 < p.c.displayName.length then .error (lit "display_name exceeds 128 bytes")
    else return p.c

example :
    (parseConfig (lit "# c\n[telemetry]\n\tinterval_seconds = 05\r\n\n[dashboard]\nhost=\"h\"")).map
        (fun c => (c.host, c.port, c.intervalSeconds, c.displayName)) =
      .ok (lit "h", 51337, 5, []) := by
  decide +kernel

end RpiDashboard.Daemon
