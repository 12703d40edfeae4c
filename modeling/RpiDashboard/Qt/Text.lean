import RpiDashboard.Qt.DateTime
import RpiDashboard.Qt.Json

/-! Qt's conversions between text and values. -/

namespace RpiDashboard.Qt

open Numeric

/-- A URL as it is made: from a text, and with the query items set afterwards. -/
structure QUrl where
  text : QString
  query : List (QString × QString) := []
  deriving DecidableEq

structure QtText where
  /-- `QJsonDocument::fromJson`; none is a parse error. -/
  fromJson : QByteArray → Option QJsonValue
  /-- `QDateTime::fromString` with `Qt::ISODate`. -/
  fromIsoDate : QString → QDateTime
  /-- `QString::arg` with format `f` and so many decimals. -/
  fixed : Double → Nat → QString
  /-- `QUrl::toString`. -/
  urlText : QUrl → QString
  toLower : QString → QString
  /-- `QString::compare` with `Qt::CaseInsensitive` gives zero. -/
  sameLetters : QString → QString → Bool
  /-- `QByteArray::toLongLong`; none where `ok` is false. -/
  toLongLong : QByteArray → Option Int64
  /-- A diagnostic with every URL in it stripped of query and fragment. -/
  withoutQueries : QString → QString

def contains (text part : QString) : Bool :=
  text.toList.tails.any fun tail => part.toList.isPrefixOf tail

/-- `QChar::isSpace`. -/
def isSpace (c : Char) : Bool :=
  let n := c.toNat
  (9 ≤ n && n ≤ 13) || (0x2000 ≤ n && n ≤ 0x200a) ||
    [0x20, 0x85, 0xa0, 0x1680, 0x2028, 0x2029, 0x202f, 0x205f, 0x3000].contains n

def trimmed (text : QString) : QString :=
  String.ofList ((text.toList.dropWhile isSpace).reverse.dropWhile isSpace).reverse

/-- The UTF-16 code units of a text, by which texts are ordered. -/
def utf16 (text : QString) : List Nat :=
  text.toList.flatMap fun c =>
    if c.toNat < 0x10000 then [c.toNat]
    else [0xd800 + (c.toNat - 0x10000) / 0x400, 0xdc00 + (c.toNat - 0x10000) % 0x400]

/-- `operator<` of two texts. -/
def QString.lt (a b : QString) : Bool := utf16 a < utf16 b

/-- `QString::truncate`, to so many code units. -/
def truncate (text : QString) (units : Nat) : QString :=
  String.ofList ((text.toList.inits.filter fun cs => (utf16 (String.ofList cs)).length ≤ units).getLastD [])

/-- A number in format `f`, rounded to so many decimals. -/
def fixedText (d : Double) (decimals : Nat) : QString :=
  let magnitude := if d.toRat < 0 then -d.toRat else d.toRat
  let units := (magnitude * 10 ^ decimals + 1 / 2).floor.toNat
  let fraction := toString (units % 10 ^ decimals)
  (if d.negative then "-" else "") ++ toString (units / 10 ^ decimals) ++ "." ++
    String.ofList (List.replicate (decimals - fraction.length) '0') ++ fraction

end RpiDashboard.Qt
