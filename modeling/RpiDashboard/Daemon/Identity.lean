import RpiDashboard.Daemon.Text
import RpiDashboard.Data.Keyed
import RpiDashboard.Data.Program
import RpiDashboard.Data.Run

/-! The identity of the daemon (`load_or_create_identity` in `daemon/src/daemon.cpp`), as a
program over the files that it reads and writes. -/

namespace RpiDashboard.Daemon

section Text

def hexDigit (n : UInt8) : UInt8 := (lit "0123456789abcdef").getD n.toNat 0

def hexPair (byte : UInt8) : StdString := [hexDigit (byte >>> 4), hexDigit (byte &&& 15)]

def uuidString (id : Uuid) : StdString :=
  id.toList.zipIdx.flatMap fun (byte, i) =>
    (if i = 4 ∨ i = 6 ∨ i = 8 ∨ i = 10 then lit "-" else []) ++ hexPair byte

/-- `std::from_chars` with the base 16, which reads as many digits as there are. -/
def fromChars (s : StdString) : Option Nat :=
  let digits := s.takeWhile (isDigitOf 16)
  if digits = [] then none else some (numeralOf 16 digits)

/-- The loop over the pairs of characters. -/
def identityBytes : StdString → Option (List UInt8)
  | a :: b :: hex => do
    let v ← fromChars [a, b]
    let bytes ← identityBytes hex
    return UInt8.ofNat v :: bytes
  | _ => some []

def parseIdentity (s : StdString) : Option Uuid :=
  let hex := s.filter (· ≠ 0x2d)
  if hex.length ≠ 32 then none
  else
    match identityBytes hex with
    | none => none
    | some bytes => if h : bytes.toArray.size = 16 then some ⟨bytes.toArray, h⟩ else none

/-- The version and the variant of a random UUID. -/
def randomUuid (bytes : Uuid) : Uuid :=
  let id := bytes.set 6 ((bytes[6] &&& 0x0f) ||| 0x40)
  id.set 8 ((id[8] &&& 0x3f) ||| 0x80)

end Text

section Files

/-- The file at the identity path, and the temporary files beside it by their process. -/
structure Files where
  identity : Option StdString := none
  temporaries : List (Nat × StdString) := []

/-- How reading an existing file goes: well, or it cannot be opened, or reading fails after so
many bytes, which ends the text there or throws. -/
inductive Reading
  | whole | closed | short (bytes : Nat) | thrown

/-- One start: its process, how each step goes that may fail, and after how many steps the
process stops if it is not done by then. -/
structure Start where
  pid : Nat
  reading : Reading := .whole
  directories : Bool := true
  random : Option Uuid
  opened : Bool := true
  written : Nat := 64
  synced : Bool := true
  closed : Bool := true
  renamed : Bool := true
  unlinked : Bool := true
  steps : Nat := 16

def Files.read (files : Files) : Reading → Option StdString
  | .whole => some (files.identity.getD [])
  | .closed => some []
  | .short bytes => some ((files.identity.getD []).take bytes)
  | .thrown => if files.identity.isSome then none else some []

def Files.temporary (files : Files) (pid : Nat) : Option StdString :=
  (Keyed.find Prod.fst pid files.temporaries).map Prod.snd

def Files.unlink (files : Files) (pid : Nat) : Files :=
  { files with temporaries := Keyed.erase Prod.fst pid files.temporaries }

def Files.write (files : Files) (pid : Nat) (out : StdString) : Files :=
  { files with temporaries := (pid, out) :: Keyed.erase Prod.fst pid files.temporaries }

/-- The file takes the place of the identity in one step. -/
def Files.rename (files : Files) (pid : Nat) : Files :=
  { files.unlink pid with identity := files.temporary pid }

end Files

/-- An exception of the library, or one with a text. -/
inductive IdentityError
  | library
  | runtime (what : String)

abbrev IdentityProgram : Type := Program Files (Except IdentityError Uuid)

namespace Start

variable (start : Start)

/-- The temporary file is closed and removed. -/
def giveUp : IdentityProgram :=
  .step id fun _ =>
    .step (fun files => if start.unlinked then files.unlink start.pid else files) fun _ =>
      .done (.error (.runtime "cannot persist device identity"))

def persistIdentity (id : Uuid) : IdentityProgram :=
  let out := uuidString id ++ lit "\n"
  .attempt (fun files => start.opened && (files.temporary start.pid).isNone)
    (fun files => files.write start.pid [])
    (.step (fun files => files.write start.pid (out.take start.written)) fun _ =>
      if start.written < out.length then start.giveUp
      else
        .attempt (fun _ => start.synced) (fun files => files)
          (.attempt (fun _ => start.closed) (fun files => files)
            (.attempt (fun _ => start.renamed) (fun files => files.rename start.pid)
              (.step (fun files => files) fun _ => .done (.ok id))
              start.giveUp)
            start.giveUp)
          start.giveUp)
    start.giveUp

def createIdentity : IdentityProgram :=
  .attempt (fun _ => start.directories) (fun files => files)
    (.step (fun files => files) fun _ =>
      match start.random with
      | none => .done (.error (.runtime "cannot obtain random identity"))
      | some bytes => start.persistIdentity (randomUuid bytes))
    (.done (.error .library))

def loadOrCreateIdentity : IdentityProgram :=
  .step (fun files => files) fun files =>
    match files.read start.reading with
    | none => .done (.error .library)
    | some contents =>
      if trim contents ≠ [] then
        match parseIdentity (trim contents) with
        | none => .done (.error (.runtime "invalid persisted device identity"))
        | some id => .done (.ok id)
      else start.createIdentity

end Start

namespace Files

/-- The files after a start, and its result if the process has not stopped before. -/
def call (files : Files) (start : Start) : Files × Option (Except IdentityError Uuid) :=
  start.loadOrCreateIdentity.stop start.steps files

def step (files : Files) (start : Start) : Files := (files.call start).1

/-- The id that a start returns. -/
def returned (files : Files) (start : Start) : List Uuid :=
  match (files.call start).2 with
  | some (.ok id) => [id]
  | _ => []

end Files

end RpiDashboard.Daemon
