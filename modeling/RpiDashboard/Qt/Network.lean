import RpiDashboard.Qt.Value

/-! Addresses and datagrams.  Scope identifiers take no part in Qt's comparison
of addresses and are left out. -/

namespace RpiDashboard.Qt

inductive QHostAddress
  | null : QHostAddress
  | any : QHostAddress
  | ipv4 : UInt32 → QHostAddress
  | ipv6 : BitVec 128 → QHostAddress
  deriving DecidableEq

def QHostAddress.isNull (address : QHostAddress) : Bool := address = .null

/-- Where a received datagram came from: the system always reports an address. -/
structure Endpoint where
  address : QHostAddress
  port : UInt16
  address_ne_null : address ≠ .null
  deriving DecidableEq

structure QNetworkDatagram where
  data : QByteArray
  sender : Endpoint

/-- What a UDP socket has queued; `none` is a datagram that cannot be read. -/
abbrev QUdpSocket := List (Option QNetworkDatagram)

/-- A datagram loses what exceeds the size asked for. -/
def QNetworkDatagram.truncate (datagram : QNetworkDatagram) (maxSize : Nat) : QNetworkDatagram :=
  { datagram with data := datagram.data.take maxSize }

end RpiDashboard.Qt
