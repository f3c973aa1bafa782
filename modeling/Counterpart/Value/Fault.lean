import Counterpart.Fault
import Counterpart.Number.Numeral
import Counterpart.Text.Quoted
import Counterpart.Wire.Format

/-!
Causes of failure when values are converted, packed and unpacked, and when objects are used. Each
cause belongs to one kind and has one wording.
-/
namespace Counterpart

inductive LayoutFault where
  | notInteger
  | notReal
  | outsideWord
  | outsideRange (format : NumberFormat)
  | tooLarge
  | short (size length : Nat) (offset : Int)
  deriving DecidableEq, Repr

namespace LayoutFault

def formatName : NumberFormat → Text
  | .int8 => "byte format"
  | .uint8 => "ubyte format"
  | f => "'" ++ f.letter ++ "' format"

def message : LayoutFault → Text
  | .notInteger => "required argument is not an integer"
  | .notReal => "required argument is not a float"
  | .outsideWord => "argument out of range"
  | .outsideRange format =>
    let (least, greatest) := format.bounds?.getD (0, 0)
    Text.concat [formatName format, " requires ", Text.ofInt least, " <= number <= ", Text.ofInt greatest]
  | .tooLarge => "int too large to convert"
  | .short size length offset =>
    if 0 ≤ offset then
      Text.concat ["unpack_from requires a buffer of at least ", Text.ofInt (size + offset),
        " bytes for unpacking ", Text.ofNat size, " bytes at offset ", Text.ofInt offset,
        " (actual buffer size is ", Text.ofNat length, ")"]
    else if 0 < offset + size then
      Text.concat ["not enough data to unpack ", Text.ofNat size, " bytes at offset ", Text.ofInt offset]
    else
      Text.concat ["offset ", Text.ofInt offset, " out of range for ", Text.ofNat length, "-byte buffer"]

end LayoutFault

inductive Requirement where
  | property
  | setter
  | signal
  | slot
  deriving DecidableEq, Repr

inductive Fault where
  -- conversions
  | noAttribute (kind name : Text)
  | noLength (kind : Text)
  | notIterable (kind : Text)
  | notIndex (kind : Text)
  | notInteger (kind : Text)
  | notReal (kind : Text)
  | notBytes (kind : Text)
  | noEncoding
  | notCharacter (length : Nat)
  | notByte
  | negativeCount
  | notNumeral (quoted : Text)
  | notFraction (quoted : Text)
  | noNumber
  | infinite
  | tooLargeForReal
  | tooLargeForIndex
  | blockTooLarge
  | noMemory
  | unhashable (kind : Text)
  | notEnumerator (quoted cls : Text)
  | unencodable (e : Utf16.EncodeError)
  | longNumeral (digits : Nat)
  | longNumber
  | notOrdered (kind : Text)
  | notPosition (container kind : Text)
  -- the wire
  | layout (l : LayoutFault)
  | singleOverflow
  | offsetOverflow
  | noByte
  | noByteInView
  | hugeIndex
  | unpackable (quoted type : Text) (l : LayoutFault)
  | truncated (type : Text) (offset : Int)
  | truncatedLength (offset : Int)
  | missingBytes (length : Nat) (offset present : Int)
  | undecodable (offset : Int) (e : Utf16.DecodeError)
  | noCodec (type : Text)
  | argumentCount (expected given : Nat)
  -- names
  | undefined (name : Text)
  | unknownKey (name : Text)
  | noClassAttribute (cls name : Text)
  | bareAttribute (name : Text)
  -- modules
  | unreadable
  -- calls and objects
  | tooManyArguments (function : Text) (least greatest given : Nat)
  | missingArguments (function : Text) (names : List Text)
  | notCallable (kind : Text)
  | noEnumerators
  | refused (kind : FaultKind) (message : Text)
  | abstractClass (cls : Text) (names : List Text)
  | inconsistentBases (names : List Text)
  | duplicateBase (name : Text)
  | detached (name : Text)
  | noItem
  | notConnected
  | nonconforming (type : Text) (missing : Requirement) (name cls : Text)
  | leftOpen (function : Text)
  | tooDeep
  | cancelled
  | timeout
  | raised (message : Text)

namespace Fault

def kind : Fault → FaultKind
  | .noAttribute .. | .noClassAttribute .. | .bareAttribute _ => .attribute
  | .noLength _ | .notIterable _ | .notIndex _ | .notInteger _ | .notReal _ | .notBytes _ | .noEncoding
  | .notCharacter _ | .unhashable _ | .tooManyArguments .. | .missingArguments .. | .notCallable _
  | .abstractClass .. | .inconsistentBases _ | .duplicateBase _ | .nonconforming .. | .notOrdered _
  | .notPosition .. => .type
  | .notByte | .negativeCount | .notNumeral _ | .notFraction _ | .noNumber | .notEnumerator ..
  | .notConnected | .longNumeral _ | .longNumber => .value
  | .infinite | .tooLargeForReal | .tooLargeForIndex | .blockTooLarge | .singleOverflow
  | .offsetOverflow => .overflow
  | .noMemory => .memory
  | .unencodable _ => .encoding
  | .unreadable => .grammar
  | .noEnumerators => .exhausted
  | .refused kind _ => kind
  | .layout _ => .layout
  | .noByte | .noByteInView | .hugeIndex | .noItem => .index
  | .unpackable .. | .truncated .. | .truncatedLength _ | .missingBytes .. | .undecodable ..
  | .noCodec _ | .argumentCount .. => .serialization
  | .undefined _ => .name
  | .unknownKey _ => .key
  | .detached _ => .replica
  | .leftOpen _ => .unimplemented
  | .cancelled => .cancelled
  | .timeout => .timeout
  | .tooDeep => .recursion
  | .raised _ => .raised

def enumeration : List Text → Text
  | [] => []
  | [a] => a
  | [a, b] => a ++ " and " ++ b
  | [a, b, c] => Text.concat [a, ", ", b, ", and ", c]
  | a :: rest => a ++ ", " ++ enumeration rest

def plural (n : Nat) : Text := if n = 1 then [] else "s"

def flawText (e : Utf16.DecodeError) : Text :=
  let reason : Text := match e.flaw with
    | .strayLow => "illegal encoding"
    | .strayHigh => "illegal UTF-16 surrogate"
    | .cutPair => "unexpected end of data"
    | .oddByte => "truncated data"
  let place : Text :=
    if e.stop = e.start + 1 then
      Text.concat ["byte 0x", Text.hex 2 e.first.toNat, " in position ", Text.ofNat e.start]
    else Text.concat ["bytes in position ", Text.ofNat e.start, "-", Text.ofNat (e.stop - 1)]
  Text.concat ["'utf-16-be' codec can't decode ", place, ": ", reason]

def message : Fault → Text
  | .noAttribute kind name => Text.concat ["'", kind, "' object has no attribute '", name, "'"]
  | .noLength kind => Text.concat ["object of type '", kind, "' has no len()"]
  | .notIterable kind => Text.concat ["'", kind, "' object is not iterable"]
  | .notIndex kind => Text.concat ["'", kind, "' object cannot be interpreted as an integer"]
  | .notInteger kind =>
    Text.concat ["int() argument must be a string, a bytes-like object or a real number, not '", kind, "'"]
  | .notReal kind => Text.concat ["float() argument must be a string or a real number, not '", kind, "'"]
  | .notBytes kind => Text.concat ["cannot convert '", kind, "' object to bytes"]
  | .noEncoding => "string argument without an encoding"
  | .notCharacter length =>
    Text.concat ["ord() expected a character, but string of length ", Text.ofNat length, " found"]
  | .notByte => "bytes must be in range(0, 256)"
  | .negativeCount => "negative count"
  | .notNumeral quoted => "invalid literal for int() with base 10: " ++ quoted.take 200
  | .notFraction quoted => "could not convert string to float: " ++ quoted
  | .noNumber => "cannot convert float NaN to integer"
  | .infinite => "cannot convert float infinity to integer"
  | .tooLargeForReal => "int too large to convert to float"
  | .tooLargeForIndex => "cannot fit 'int' into an index-sized integer"
  | .blockTooLarge => "byte string is too large"
  | .noMemory => []
  | .unhashable kind => Text.concat ["unhashable type: '", kind, "'"]
  | .notEnumerator quoted cls => Text.concat [quoted, " is not a valid ", cls]
  | .unencodable e =>
    Text.concat ["'utf-16-be' codec can't encode character ", Quoted.text [e.code], " in position ",
      Text.ofNat e.position, ": surrogates not allowed"]
  | .longNumeral digits => Numeral.tooLongMessage digits
  | .longNumber =>
    Text.concat ["Exceeds the limit (", Text.ofNat Numeral.digitLimit,
      " digits) for integer string conversion; use sys.set_int_max_str_digits() to increase the limit"]
  | .notOrdered kind => Text.concat ["'<' not supported between instances of '", kind, "' and 'int'"]
  | .notPosition container kind =>
    Text.concat [container, " indices must be integers or slices, not ", kind]
  | .layout l => l.message
  | .singleOverflow => "float too large to pack with f format"
  | .offsetOverflow => "Python int too large to convert to C ssize_t"
  | .noByte => "index out of range"
  | .noByteInView => "index out of bounds on dimension 1"
  | .hugeIndex => "cannot fit 'int' into an index-sized integer"
  | .unpackable quoted type l => Text.concat ["cannot pack ", quoted, " as ", type, ": ", l.message]
  | .truncated type offset => Text.concat ["truncated ", type, " at offset ", Text.ofInt offset]
  | .truncatedLength offset => "truncated length prefix at offset " ++ Text.ofInt offset
  | .missingBytes length offset present =>
    Text.concat ["need ", Text.ofNat length, " bytes at offset ", Text.ofInt offset, ", have ", Text.ofInt present]
  | .undecodable offset e =>
    Text.concat ["invalid UTF-16 string at offset ", Text.ofInt offset, ": ", flawText e]
  | .noCodec type => "no codec for type " ++ type
  | .argumentCount expected given =>
    Text.concat ["expected ", Text.ofNat expected, " arguments, got ", Text.ofNat given]
  | .undefined name => Text.concat ["name '", name, "' is not defined"]
  | .unknownKey name => Quoted.text name
  | .noClassAttribute cls name => Text.concat ["type object '", cls, "' has no attribute '", name, "'"]
  | .bareAttribute name => name
  | .unreadable => []
  | .tooManyArguments function least greatest given =>
    let takes : Text :=
      if least = greatest then
        Text.concat [Text.ofNat greatest, " positional argument", plural greatest]
      else Text.concat ["from ", Text.ofNat least, " to ", Text.ofNat greatest, " positional arguments"]
    Text.concat [function, "() takes ", takes, " but ", Text.ofNat given,
      if given = 1 then " was given" else " were given"]
  | .missingArguments function names =>
    Text.concat [function, "() missing ", Text.ofNat names.length, " required positional argument",
      plural names.length, ": ", enumeration (names.map Quoted.text)]
  | .notCallable kind => Text.concat ["'", kind, "' object is not callable"]
  | .noEnumerators => []
  | .refused _ message => message
  | .abstractClass cls names =>
    Text.concat ["Can't instantiate abstract class ", cls, " with abstract method", plural names.length,
      " ", Text.join ", " names]
  | .inconsistentBases names =>
    "Cannot create a consistent method resolution\norder (MRO) for bases " ++ Text.join ", " names
  | .duplicateBase name => "duplicate base class " ++ name
  | .detached name => name ++ " is not attached to a node"
  | .noItem => "list index out of range"
  | .notConnected => "list.remove(x): x not in list"
  | .nonconforming type missing name cls =>
    let lacks : Text := match missing with
      | .property => Text.concat [" does not declare the property ", name, " of "]
      | .setter => Text.concat [" does not implement ", name, " required by "]
      | .signal => Text.concat [" does not declare the signal ", name, " of "]
      | .slot => Text.concat [" does not implement the slot ", name, " of "]
    Text.concat [type, lacks, cls]
  | .leftOpen function => function ++ "() must be implemented by generated code"
  | .tooDeep => "maximum recursion depth exceeded"
  | .cancelled => []
  | .timeout => []
  | .raised message => message

end Fault
end Counterpart
