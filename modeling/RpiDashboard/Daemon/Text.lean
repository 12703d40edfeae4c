import RpiDashboard.Daemon.Value
import RpiDashboard.Numeric.Arithmetic

/-! How the daemon reads text (`daemon/src/daemon.cpp`): its own helpers, and what it uses of
the C and C++ libraries in the C locale. -/

namespace RpiDashboard.Daemon

open Numeric

section Characters

def isspace (c : UInt8) : Bool := c = 0x20 || (0x09 ≤ c && c ≤ 0x0d)
def isdigit (c : UInt8) : Bool := 0x30 ≤ c && c ≤ 0x39
def tolower (c : UInt8) : UInt8 := if 0x41 ≤ c && c ≤ 0x5a then c + 0x20 else c
def toupper (c : UInt8) : UInt8 := if 0x61 ≤ c && c ≤ 0x7a then c - 0x20 else c

/-- The blanks that `trim` takes off. -/
def blank (c : UInt8) : Bool := c = 0x20 || c = 0x09 || c = 0x0d || c = 0x0a

def trim (s : StdString) : StdString :=
  ((s.dropWhile blank).reverse.dropWhile blank).reverse

/-- The loop of `utf8`, with the continuation bytes that are left. -/
def utf8Loop : Nat → StdString → Bool
  | left, [] => left = 0
  | 0, c :: s =>
    if c < 0x80 then utf8Loop 0 s
    else if c &&& 0xe0 = 0xc0 then utf8Loop 1 s
    else if c &&& 0xf0 = 0xe0 then utf8Loop 2 s
    else if c &&& 0xf8 = 0xf0 then utf8Loop 3 s
    else false
  | left + 1, c :: s => if c &&& 0xc0 = 0x80 then utf8Loop left s else false

def utf8 (s : StdString) : Bool := utf8Loop 0 s

def clean (value : StdString) : Option StdString :=
  let value := trim value
  if value = [] ∨ value.map tolower = lit "unknown" ∨ !utf8 value then none else some value

/-- What comes before and after the first `c`; none if there is none. -/
def cut (c : UInt8) : StdString → Option (StdString × StdString)
  | [] => none
  | d :: s => if d = c then some ([], s) else (cut c s).map fun (first, rest) => (d :: first, rest)

/-- `std::getline` until the end. -/
def getlines (s : StdString) : List StdString :=
  let lines := s.splitOn 0x0a
  if lines.getLast? = some [] then lines.dropLast else lines

/-- `operator>>` into strings until the end. -/
def words (s : StdString) : List StdString := (s.splitOnP isspace).filter (· ≠ [])

end Characters

section Integers

def decimal (digits : StdString) : Nat := digits.foldl (fun n c => n * 10 + (c.toNat - 0x30)) 0

def numeric (input : StdString) : Bool := !input.isEmpty && input.all isdigit

/-- `unsigned_value` of 64 bits. -/
def unsignedValue (input : StdString) : Option UInt64 :=
  if numeric input ∧ decimal input < 2 ^ 64 then some (UInt64.ofNat (decimal input)) else none

/-- `unsigned_value` of 32 bits, with a maximum. -/
def unsignedAtMost (input : StdString) (maximum : Nat) : Option Nat :=
  if numeric input ∧ decimal input < 2 ^ 32 ∧ decimal input ≤ maximum then some (decimal input)
  else none

/-- A sign, if there is one, and the rest. -/
def signOf : StdString → Bool × StdString
  | 0x2d :: s => (true, s)
  | 0x2b :: s => (false, s)
  | s => (false, s)

/-- `operator>>` into a `std::uint64_t`; a minus wraps around. -/
def extractUnsigned (s : StdString) : Option (UInt64 × StdString) :=
  let (negative, s) := signOf (s.dropWhile isspace)
  let digits := s.takeWhile isdigit
  if digits = [] ∨ 2 ^ 64 ≤ decimal digits then none
  else
    let value := UInt64.ofNat (decimal digits)
    some (if negative then -value else value, s.dropWhile isdigit)

/-- The numbers that a loop over `operator>>` reads; each takes at least one byte. -/
def extractLoop : Nat → StdString → List UInt64
  | 0, _ => []
  | fuel + 1, s =>
    match extractUnsigned s with
    | some (value, rest) => value :: extractLoop fuel rest
    | none => []

def extractAll (s : StdString) : List UInt64 := extractLoop s.length s

end Integers

section Numbers

def isDigitOf (radix : Nat) (c : UInt8) : Bool :=
  isdigit c || (radix = 16 && 0x61 ≤ tolower c && tolower c ≤ 0x66)

def digitOf (c : UInt8) : Nat := if isdigit c then c.toNat - 0x30 else (tolower c).toNat - 0x57

def numeralOf (radix : Nat) (digits : StdString) : Nat :=
  digits.foldl (fun n c => n * radix + digitOf c) 0

/-- An exponent after its marker; a marker without digits is not part of the number. -/
def exponentOf (marker : UInt8) (s : StdString) : Int × StdString :=
  match s with
  | [] => (0, [])
  | c :: t =>
    let (negative, t) := signOf t
    let digits := t.takeWhile isdigit
    if tolower c ≠ marker ∨ digits = [] then (0, s)
    else (if negative then -(decimal digits : Int) else decimal digits, t.dropWhile isdigit)

/-- The digits before and after the point, and the rest. -/
def mantissaOf (radix : Nat) (s : StdString) : StdString × StdString × StdString :=
  let whole := s.takeWhile (isDigitOf radix)
  match s.dropWhile (isDigitOf radix) with
  | 0x2e :: t => (whole, t.takeWhile (isDigitOf radix), t.dropWhile (isDigitOf radix))
  | rest => (whole, [], rest)

/-- A numeral with the base that its exponent is of; none if there is no digit. -/
def numeral (radix : Nat) (marker : UInt8) (base : ℚ) (s : StdString) : Option (ℚ × StdString) :=
  let (whole, fraction, rest) := mantissaOf radix s
  if whole ++ fraction = [] then none
  else
    let (exponent, rest) := exponentOf marker rest
    some (numeralOf radix (whole ++ fraction) / radix ^ fraction.length * base ^ exponent, rest)

/-- The payload that may follow a NaN. -/
def afterNan (s : StdString) : StdString :=
  match s with
  | 0x28 :: t =>
    match t.dropWhile fun c => isdigit c || (0x61 ≤ tolower c && tolower c ≤ 0x7a) || c = 0x5f with
    | 0x29 :: u => u
    | _ => s
  | _ => s

def infinity : Nat := 0x7ff0000000000000
def quietNan : Nat := 0x7ff8000000000000

/-- `strtod`: the number and what follows it; none if there is no number. -/
def strtod (s : StdString) : Option (Double × StdString) :=
  let (negative, s) := signOf (s.dropWhile isspace)
  let hexadecimal :=
    match s with
    | 0x30 :: x :: t => if tolower x = 0x78 then numeral 16 0x70 2 t else none
    | _ => none
  match hexadecimal <|> numeral 10 0x65 10 s with
  | some (q, rest) => some (Double.ofSign negative (Double.nearest q), rest)
  | none =>
    let lower := s.map tolower
    if (lit "infinity").isPrefixOf lower then some (.ofSign negative infinity, s.drop 8)
    else if (lit "inf").isPrefixOf lower then some (.ofSign negative infinity, s.drop 3)
    else if (lit "nan").isPrefixOf lower then some (.ofSign negative quietNan, afterNan (s.drop 3))
    else none

/-- A string up to its first NUL. -/
def cString (s : StdString) : StdString := s.takeWhile (· ≠ 0)

/-- The characters that `operator>>` into a `double` takes, and the rest. -/
def floatField (s : StdString) : StdString × StdString :=
  let (_, t) := signOf s
  let (whole, fraction, rest) := mantissaOf 10 t
  let rest :=
    match rest with
    | [] => []
    | c :: u =>
      if tolower c = 0x65 ∧ whole ++ fraction ≠ [] then (signOf u).2.dropWhile isdigit else rest
  (s.take (s.length - rest.length), rest)

/-- `operator>>` into a `double`: the field is a number to its end, and not too large. -/
def extractDouble (s : StdString) : Option (Double × StdString) :=
  let (field, rest) := floatField (s.dropWhile isspace)
  match strtod field with
  | some (d, []) => if d.isFinite then some (d, rest) else none
  | _ => none

end Numbers

section Files

def kWireMaximum : UInt64 := 0x7fffffffffffffff

def v3dEntry (entry : StdString) : Bool :=
  let entry := entry.map tolower
  entry = lit "v3d" || (lit ".v3d").isSuffixOf entry

def gpuThermalZone (type : StdString) : Bool :=
  (trim type).map tolower ∈ ["gpu", "gpu-thermal", "gpu_thermal", "v3d"].map lit

def cpuThermalZone (type : StdString) : Bool :=
  (trim type).map tolower ∈
    ["cpu-thermal", "cpu_thermal", "soc_thermal", "x86_pkg_temp", "tcpu", "tcpu_pci"].map lit

def gpuVendor (value : StdString) : Option StdString :=
  let value := trim value
  if value = lit "0x8086" then some (lit "Intel")
  else if value = lit "0x10de" then some (lit "NVIDIA")
  else if value = lit "0x1002" then some (lit "AMD")
  else none

/-- The timestamp and the runtime of a queue. -/
def gpuQueue (line : StdString) : Option (UInt64 × UInt64) :=
  match words line with
  | [_, timestamp, jobs, runtime] => do
    let timestamp ← unsignedValue timestamp
    let _ ← unsignedValue jobs
    return (timestamp, ← unsignedValue runtime)
  | _ => none

/-- Adds up the queues of one timestamp, that of the first. -/
def addQueue (found : Option (UInt64 × UInt64)) (line : StdString) : Option (UInt64 × UInt64) :=
  match gpuQueue line with
  | none => found
  | some (timestamp, runtime) =>
    let total := (found.map Prod.snd).getD 0
    if found.any (·.1 ≠ timestamp) || kWireMaximum - runtime < total then found
    else some (timestamp, total + runtime)

def gpuStats (contents : StdString) : Option (UInt64 × UInt64) :=
  ((getlines contents).foldl addQueue none).filter fun (timestamp, _) => 0 < timestamp

def octal (c : UInt8) : Bool := 0x30 ≤ c && c ≤ 0x37

/-- Octal escapes of three digits; their value is cut to a byte. -/
def mountPath : StdString → StdString
  | c :: x :: y :: z :: s =>
    if c = 0x5c ∧ octal x ∧ octal y ∧ octal z then
      ((x - 0x30) * 64 + (y - 0x30) * 8 + (z - 0x30)) :: mountPath s
    else c :: mountPath (x :: y :: z :: s)
  | s => s

def kMaximumCpuCount : Nat := 256
def kMaximumCpuId : Nat := 4095

/-- The first and the last of the processors of an entry. -/
def cpuRange (entry : StdString) : Option (Nat × Nat) := do
  let (first, last) := (cut 0x2d entry).getD (entry, entry)
  if entry = [] ∨ (cut 0x2d entry).any (0x2d ∈ ·.2) then none
  let first ← unsignedAtMost first kMaximumCpuId
  let last ← unsignedAtMost last kMaximumCpuId
  if last < first ∨ kMaximumCpuCount < last - first + 1 then none else return (first, last)

def addCpu (ids : List Nat) (id : Nat) : Option (List Nat) :=
  if id ∈ ids ∨ kMaximumCpuCount ≤ ids.length then none else some (ids ++ [id])

def addCpus (ids : List Nat) (entry : StdString) : Option (List Nat) := do
  let (first, last) ← cpuRange entry
  (List.range' first (last + 1 - first)).foldlM addCpu ids

def onlineCpuIds (contents : StdString) : Option (List Nat) :=
  let contents := trim contents
  if contents = [] then none
  else (((contents.splitOn 0x2c).foldlM addCpus []) : Option (List Nat)).filter (· ≠ [])

def memoryBytes (contents : StdString) : Option UInt64 := do
  let line ← (contents.splitOn 0x0a).find? (lit "MemTotal:").isPrefixOf
  let value := trim (line.drop 9)
  let digits := value.takeWhile fun c => c ≠ 0x20 && c ≠ 0x09
  if trim (value.drop digits.length) ≠ lit "kB" then none
  let kibibytes ← unsignedValue digits
  if kibibytes = 0 ∨ kibibytes > 0xffffffffffffffff / 1024 then none else return kibibytes * 1024

/-- What follows the colon in the first line with this key. -/
def cpuInfoField (contents : StdString) (key : String) : Option StdString :=
  (contents.splitOn 0x0a).findSome? fun line =>
    (cut 0x3a line).bind fun (name, value) => if trim name = lit key then some value else none

def cpuInfoValue (contents : StdString) (expectedKey : String) : Option StdString :=
  (cpuInfoField contents expectedKey).bind clean

end Files

example :
    trim (lit " a b\r\n") = lit "a b" ∧
      extractAll (lit "  1 -1 18446744073709551616 3") = [1, 0xffffffffffffffff] ∧
      strtod (lit " -0x1.8p1z") = some (Double.ofInt (-3), lit "z") ∧
      (strtod (lit "3.5e-1e")).map Prod.fst = some (Double.ofRat (7 / 20)) ∧
      (extractDouble (lit "0.52 0.58")).map Prod.snd = some (lit " 0.58") ∧
      (extractDouble (lit "1e ")).isNone := by
  decide +kernel

example :
    gpuStats (lit "bin 7 1 20\nrender 7 2 5\ncsd 8 1 1\n") = some (7, 25) ∧
      mountPath (lit "/a\\040b\\08") = lit "/a b\\08" ∧
      onlineCpuIds (lit "0-2,5\n") = some [0, 1, 2, 5] ∧
      memoryBytes (lit "A: 1 kB\nMemTotal:  8 kB\n") = some 8192 := by
  decide +kernel

end RpiDashboard.Daemon
