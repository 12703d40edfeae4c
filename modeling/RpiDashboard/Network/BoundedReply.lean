import RpiDashboard.Data.Run
import RpiDashboard.Qt.Value

/-! The body of a network reply, up to a limit (`network/bounded_reply.h`). -/

namespace RpiDashboard.Network

open Qt

/-- What cannot be foreseen of a connection: how many of the bytes asked for a read returns, at
least one, and which calls of `abort` call `finish` before they return. -/
structure Connection where
  count : Nat → Nat → Nat
  count_le : ∀ k n, count k n ≤ n
  one_le_count : ∀ k n, 1 ≤ n → 1 ≤ count k n
  reenters : Nat → Bool

/-- What has arrived and has not been read, and the calls so far. -/
structure QNetworkReply where
  available : QByteArray := []
  reads : Nat := 0
  aborts : Nat := 0

namespace QNetworkReply

def bytesAvailable (reply : QNetworkReply) : Nat := reply.available.length

def read (connection : Connection) (reply : QNetworkReply) (maxSize : Int) :
    QByteArray × QNetworkReply :=
  let count := connection.count reply.reads maxSize.toNat
  (reply.available.take count,
    { reply with available := reply.available.drop count, reads := reply.reads + 1 })

end QNetworkReply

/-- `most` is not in the source: the most bytes that the body has held. -/
structure BoundedReply where
  reply : QNetworkReply := {}
  maximumBytes : Nat
  body : QByteArray := []
  exceededLimit : Bool := false
  most : Nat := 0

namespace BoundedReply

def append (buffer : BoundedReply) (bytes : QByteArray) (reply : QNetworkReply) : BoundedReply :=
  let body := buffer.body ++ bytes
  { buffer with reply, body, most := max buffer.most body.length }

def rejected (buffer : BoundedReply) : BoundedReply :=
  { buffer with
    exceededLimit := true
    body := []
    reply := { buffer.reply with aborts := buffer.reply.aborts + 1 } }

/-- `finish` is what `abort` may call. -/
def reject (connection : Connection) (finish : BoundedReply → Option BoundedReply)
    (buffer : BoundedReply) : Option BoundedReply :=
  if connection.reenters buffer.reply.aborts then finish buffer.rejected else some buffer.rejected

/-- One turn of the loop of `consume`. -/
def turn (connection : Connection) (finish : BoundedReply → Option BoundedReply)
    (buffer : BoundedReply) : Option BoundedReply :=
  let remaining : Int := buffer.maximumBytes - buffer.body.length
  let read := buffer.reply.read connection (min buffer.reply.bytesAvailable (remaining + 1))
  let buffer := buffer.append read.1 read.2
  if buffer.maximumBytes < buffer.body.length then buffer.reject connection finish else some buffer

/-- None if the loop has not ended after as many turns as there is fuel. -/
def consume (connection : Connection) : Nat → BoundedReply → Option BoundedReply
  | 0, _ => none
  | fuel + 1, buffer =>
    if !buffer.exceededLimit && 0 < buffer.reply.bytesAvailable then do
      let buffer ← buffer.turn connection (consume connection fuel)
      consume connection fuel buffer
    else some buffer

end BoundedReply

/-- Bytes arrive, or the reply signals: `metaDataChanged` with the length the headers declare,
zero if they declare none. -/
inductive Signal
  | arrived : QByteArray → Signal
  | readyRead : Signal
  | metaDataChanged : Int → Signal
  | finished : Signal

namespace BoundedReply

variable (connection : Connection) (fuel : Nat)

def handle (buffer : BoundedReply) : Signal → Option BoundedReply
  | .arrived chunk =>
    some { buffer with
      reply := { buffer.reply with available := buffer.reply.available ++ chunk } }
  | .readyRead => buffer.consume connection fuel
  | .metaDataChanged contentLength =>
    if buffer.maximumBytes < contentLength then
      buffer.reject connection (consume connection fuel)
    else some buffer
  | .finished => buffer.consume connection fuel

/-- None once a handler has not ended. -/
def step (buffer : Option BoundedReply) (signal : Signal) : Option BoundedReply :=
  buffer.bind fun buffer => buffer.handle connection fuel signal

def collect (maximumBytes : Nat) : BoundedReply := { maximumBytes }

end BoundedReply

end RpiDashboard.Network
