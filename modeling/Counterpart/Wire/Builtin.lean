import Counterpart.Wire.Format

/-!
The types that are known without registration, and how their values travel.
-/
namespace Counterpart

inductive Encoding where
  | number (format : NumberFormat)
  | character
  | text
  | bytes
  | texts
  | unsent
  deriving DecidableEq, Repr

namespace Builtin

def table : List (Text × Encoding) :=
  ([("void", .unsent), ("bool", .number .truth), ("char", .number .int8), ("uchar", .number .uint8),
   ("short", .number .int16), ("ushort", .number .uint16), ("int", .number .int32),
   ("uint", .number .uint32), ("long", .number .int32), ("ulong", .number .uint32),
   ("qint8", .number .int8), ("quint8", .number .uint8), ("qint16", .number .int16),
   ("quint16", .number .uint16), ("qint32", .number .int32), ("quint32", .number .uint32),
   ("qint64", .number .int64), ("quint64", .number .uint64), ("qlonglong", .number .int64),
   ("qulonglong", .number .uint64), ("float", .number .single), ("double", .number .double),
   ("qreal", .number .double), ("QChar", .character), ("QString", .text), ("QByteArray", .bytes),
   ("QStringList", .texts), ("QVariant", .unsent), ("QVariantList", .unsent), ("QVariantMap", .unsent),
   ("QDate", .unsent), ("QTime", .unsent), ("QDateTime", .unsent), ("QUrl", .unsent), ("QUuid", .unsent),
   ("QPoint", .unsent), ("QPointF", .unsent), ("QSize", .unsent), ("QSizeF", .unsent), ("QRect", .unsent),
   ("QRectF", .unsent)] : List (String × Encoding)).map fun (name, encoding) => (Text.ofString name, encoding)

def names : List Text := table.map (·.1)

def encoding? (name : Text) : Option Encoding := (table.find? fun (n, _) => n = name).map (·.2)

def isBuiltin (name : Text) : Bool := (encoding? name).isSome

def numberFormat? (name : Text) : Option NumberFormat :=
  match encoding? name with
  | some (.number format) => some format
  | _ => none

def typeId? (name : Text) : Option Nat := names.findIdx? (· = name)

def sorted : List Text := names.mergeSort fun a b => !Text.before b a

end Builtin
end Counterpart
