import RpiDashboard.Qt.Text

/-! `QByteArray` as text. -/

namespace RpiDashboard.Qt

namespace QByteArray

/-- The white space that `trimmed` and `simplified` take off. -/
def isSpace (c : UInt8) : Bool := c = 0x20 || (0x09 ≤ c && c ≤ 0x0d)

def trimmed (bytes : QByteArray) : QByteArray :=
  ((bytes.dropWhile isSpace).reverse.dropWhile isSpace).reverse

/-- White space inside becomes one space. -/
def simplified (bytes : QByteArray) : QByteArray :=
  [0x20].intercalate ((bytes.splitOnP isSpace).filter (· ≠ []))

def split (bytes : QByteArray) (separator : UInt8) : List QByteArray := bytes.splitOn separator

end QByteArray

/-- The ASCII bytes of a literal. -/
def bytesOf (s : String) : QByteArray := s.toList.map fun c => UInt8.ofNat c.toNat

def fromLatin1 (bytes : QByteArray) : QString :=
  String.ofList (bytes.map fun c => Char.ofNat c.toNat)

/-- What Qt makes of text by its Unicode tables, and of numbers in bytes. -/
structure QtUnicode where
  /-- `QString::fromUtf8`; what is not UTF-8 is replaced. -/
  fromUtf8 : QByteArray → QString
  toLower : QString → QString
  toUpper : QString → QString
  /-- `QString::compare` with `Qt::CaseInsensitive` gives zero. -/
  sameLetters : QString → QString → Bool
  /-- `QByteArray::toULongLong`; none where `ok` is false. -/
  toULongLong : QByteArray → Option UInt64

end RpiDashboard.Qt
