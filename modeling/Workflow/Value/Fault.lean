import Workflow.Text.Quoted

/-!
# Workflow.Value.Fault

What can go wrong when values meet: operands that do not fit, fields that are
missing, text that is no number.  A `Fault` is a cause; `Fault.kind` is the
family it belongs to and `Fault.message` its wording.  Types are given by name
(`Value.typeName`).
-/

namespace Workflow

/-- The families of faults. -/
inductive Fault.Kind where
  | type | value | index | key | attribute | zeroDivision | overflow | lookup
  | encode | decode | file | url
deriving DecidableEq, Inhabited

/-- A cause of failure. -/
inductive Fault where
  -- operators
  | operands (op left right : String)
  | operand (op type : String)
  | concatenate (into got : String)
  | concatenateBytes (got : String)
  | repeatBy (type : String)
  | order (op left right : String)
  | divisionByZero (text : String)
  | negativePowerOfZero
  | resultOutOfRange
  | intTooLargeForFloat
  | quotientTooLargeForFloat
  | negativeShift
  | repeatCountTooLarge
  | notAllConverted (of : String)
  -- containers
  | notIterable (type : String)
  | noMembers (type : String)
  | needsSubstring (type : String)
  | needsBytes (type : String)
  | byteOutOfRange
  | notSubscriptable (type : String)
  | typeNotSubscriptable (name : String)
  | indexType (container type : String)
  | stringIndexType (type : String)
  | indexOutOfRange (container : String)
  | indexTooLarge
  | sliceIndex (allowsNone : Bool)
  | zeroStep
  | missingKey (quoted : String)
  | unhashable (type : String)
  | noLength (type : String)
  | notInList (quoted : String)
  | notInTuple
  | noAttribute (type name : String)
  | noItemAssignment (type : String)
  | pairShape (position : Nat)
  | pairLength (position length : Nat)
  -- calls
  | notCallable (type : String)
  | takesNone (callee : String) (given : Nat)
  | takesOne (callee : String) (given : Nat)
  | takesNoKeywords (callee : String)
  | keywordName
  | expectedAtLeast (callee : String) (wanted given : Nat)
  | expectedAtMost (callee : String) (wanted given : Nat)
  | takesAtLeast (callee : String) (wanted given : Nat)
  | takesAtMost (callee : String) (wanted given : Nat)
  | takesAtMostByPosition (callee : String) (wanted given : Nat)
  | unknownKeyword (callee name : String)
  | argumentType (callee position want got : String)
  | plainArgumentType (want got : String)
  | affixType (callee got : String)
  | needsReceiver (type name : String)
  | wrongReceiver (type name got : String)
  | emptySequence (callee : String)
  | defaultWithMany (callee : String)
  -- text
  | notAnInteger (base : Int) (quoted : String)
  | integerSource (type : String)
  | floatSource (type : String)
  | notAFloat (quoted : String)
  | integerOf (what : String)
  | baseRange
  | baseNeedsText
  | missingText
  | notAnIndex (type : String)
  | tooManyDigits
  | tooManyDigitsIn (count : Nat)
  | emptySeparator
  | substringMissing
  | joinItem (position : Nat) (type : String)
  | joinIterable
  | stripArgument (callee : String)
  | fillLength
  | fillType (type : String)
  | decodingText
  | decodingOther (type : String)
  | unknownEncoding (name : String)
  | unknownErrorHandler (name : String)
  | cannotEncode (codec quoted : String) (position limit : Nat)
  | cannotEncodeRange (codec : String) (first last limit : Nat)
  | cannotDecode (codec : String) (byte position : Nat) (reason : String)
  | cannotDecodeRange (codec : String) (first last : Nat) (reason : String)
  -- format specifications
  | invalidSpecifier (spec type : String)
  | unknownCode (code type : String)
  | valueRule (text : String)
  | typeRule (text : String)
  | overflowRule (text : String)
  | unsupportedFormat (type : String)
  | codeOutOfRange
  -- text of structured data
  | notSerializable (type : String)
  | keyType (type : String)
  | nanNotAllowed
  | circular
  -- surroundings
  | noSuchFile (quoted : String)
  | isDirectory (quoted : String)
  | notDirectory (quoted : String)
  | invalidUrl (text : String)
  | settingNotNumber (name quoted : String)
deriving DecidableEq, Inhabited

namespace Fault

/-- The family a cause belongs to. -/
def kind : Fault → Kind
  | .divisionByZero _ | .negativePowerOfZero => .zeroDivision
  | .resultOutOfRange | .intTooLargeForFloat | .quotientTooLargeForFloat | .repeatCountTooLarge
  | .codeOutOfRange | .overflowRule _ => .overflow
  | .integerOf what => if what = "NaN" then .value else .overflow
  | .indexOutOfRange _ | .indexTooLarge => .index
  | .missingKey _ => .key
  | .noAttribute .. => .attribute
  | .unknownEncoding _ | .unknownErrorHandler _ => .lookup
  | .cannotEncode .. | .cannotEncodeRange .. => .encode
  | .cannotDecode .. | .cannotDecodeRange .. => .decode
  | .noSuchFile _ | .isDirectory _ | .notDirectory _ => .file
  | .invalidUrl _ => .url
  | .negativeShift | .byteOutOfRange | .zeroStep | .notInList _ | .notInTuple | .pairLength ..
  | .emptySequence _ | .notAnInteger .. | .notAFloat _ | .baseRange
  | .tooManyDigits | .tooManyDigitsIn _ | .emptySeparator | .substringMissing | .invalidSpecifier ..
  | .unknownCode .. | .valueRule _ | .nanNotAllowed | .circular | .settingNotNumber .. => .value
  | _ => .type

/-- The ending of a plural. -/
def plural (n : Nat) : String := if n = 1 then "" else "s"

/-- A name in plain quotes. -/
def inQuotes (s : String) : String := "'" ++ s ++ "'"

/-- The wording of a cause. -/
def message : Fault → String
  | .operands op l r => s!"unsupported operand type(s) for {op}: " ++ inQuotes l ++ " and " ++ inQuotes r
  | .operand op t => s!"bad operand type for {op}: " ++ inQuotes t
  | .concatenate into got => s!"can only concatenate {into} (not \"{got}\") to {into}"
  | .concatenateBytes got => s!"can't concat {got} to bytes"
  | .repeatBy t => "can't multiply sequence by non-int of type " ++ inQuotes t
  | .order op l r => inQuotes op ++ " not supported between instances of " ++ inQuotes l ++ " and " ++ inQuotes r
  | .divisionByZero text => text
  | .negativePowerOfZero => "0.0 cannot be raised to a negative power"
  | .resultOutOfRange => "(34, 'Numerical result out of range')"
  | .intTooLargeForFloat => "int too large to convert to float"
  | .quotientTooLargeForFloat => "integer division result too large for a float"
  | .negativeShift => "negative shift count"
  | .repeatCountTooLarge => "cannot fit 'int' into an index-sized integer"
  | .notAllConverted of => s!"not all arguments converted during {of} formatting"
  | .notIterable t => inQuotes t ++ " object is not iterable"
  | .noMembers t => "argument of type " ++ inQuotes t ++ " is not iterable"
  | .needsSubstring t => s!"'in <string>' requires string as left operand, not {t}"
  | .needsBytes t => "a bytes-like object is required, not " ++ inQuotes t
  | .byteOutOfRange => "byte must be in range(0, 256)"
  | .notSubscriptable t => inQuotes t ++ " object is not subscriptable"
  | .typeNotSubscriptable name => "type " ++ inQuotes name ++ " is not subscriptable"
  | .indexType container t => s!"{container} indices must be integers or slices, not {t}"
  | .stringIndexType t => "string indices must be integers, not " ++ inQuotes t
  | .indexOutOfRange container => if container.isEmpty then "index out of range" else s!"{container} index out of range"
  | .indexTooLarge => "cannot fit 'int' into an index-sized integer"
  | .sliceIndex allowsNone =>
    if allowsNone then "slice indices must be integers or None or have an __index__ method"
    else "slice indices must be integers or have an __index__ method"
  | .zeroStep => "slice step cannot be zero"
  | .missingKey q => q
  | .unhashable t => "unhashable type: " ++ inQuotes t
  | .noLength t => "object of type " ++ inQuotes t ++ " has no len()"
  | .notInList q => s!"{q} is not in list"
  | .notInTuple => "tuple.index(x): x not in tuple"
  | .noAttribute t name => inQuotes t ++ " object has no attribute " ++ inQuotes name
  | .noItemAssignment t => inQuotes t ++ " object does not support item assignment"
  | .pairShape i => s!"cannot convert dictionary update sequence element #{i} to a sequence"
  | .pairLength i n => s!"dictionary update sequence element #{i} has length {n}; 2 is required"
  | .notCallable t => inQuotes t ++ " object is not callable"
  | .takesNone callee n => s!"{callee}() takes no arguments ({n} given)"
  | .takesOne callee n => s!"{callee}() takes exactly one argument ({n} given)"
  | .takesNoKeywords callee => s!"{callee}() takes no keyword arguments"
  | .keywordName => "keywords must be strings"
  | .expectedAtLeast callee w n => s!"{callee} expected at least {w} argument" ++ plural w ++ s!", got {n}"
  | .expectedAtMost callee w n => s!"{callee} expected at most {w} argument" ++ plural w ++ s!", got {n}"
  | .takesAtLeast callee w n => s!"{callee}() takes at least {w} argument" ++ plural w ++ s!" ({n} given)"
  | .takesAtMost callee w n => s!"{callee}() takes at most {w} argument" ++ plural w ++ s!" ({n} given)"
  | .takesAtMostByPosition callee w n =>
    s!"{callee}() takes at most {w} positional argument" ++ plural w ++ s!" ({n} given)"
  | .unknownKeyword callee name => inQuotes name ++ s!" is an invalid keyword argument for {callee}()"
  | .argumentType callee position want got => s!"{callee}() argument {position} must be {want}, not {got}"
  | .plainArgumentType want got => s!"must be {want}, not {got}"
  | .affixType callee got => s!"{callee} first arg must be str or a tuple of str, not {got}"
  | .needsReceiver t name => s!"unbound method {t}.{name}() needs an argument"
  | .wrongReceiver t name got => "descriptor " ++ inQuotes name ++ " for " ++ inQuotes t
      ++ " objects doesn't apply to a " ++ inQuotes got ++ " object"
  | .emptySequence callee => s!"{callee}() arg is an empty sequence"
  | .defaultWithMany callee => s!"Cannot specify a default for {callee}() with multiple positional arguments"
  | .notAnInteger base q => s!"invalid literal for int() with base {base}: {q}"
  | .integerSource t => "int() argument must be a string, a bytes-like object or a real number, not " ++ inQuotes t
  | .floatSource t => "float() argument must be a string or a real number, not " ++ inQuotes t
  | .notAFloat q => s!"could not convert string to float: {q}"
  | .integerOf what => s!"cannot convert float {what} to integer"
  | .baseRange => "int() base must be >= 2 and <= 36, or 0"
  | .baseNeedsText => "int() can't convert non-string with explicit base"
  | .missingText => "int() missing string argument"
  | .notAnIndex t => inQuotes t ++ " object cannot be interpreted as an integer"
  | .tooManyDigits => "Exceeds the limit (4300 digits) for integer string conversion; "
      ++ "use sys.set_int_max_str_digits() to increase the limit"
  | .tooManyDigitsIn n => s!"Exceeds the limit (4300 digits) for integer string conversion: value has {n} digits; "
      ++ "use sys.set_int_max_str_digits() to increase the limit"
  | .emptySeparator => "empty separator"
  | .substringMissing => "substring not found"
  | .joinItem i t => s!"sequence item {i}: expected str instance, {t} found"
  | .joinIterable => "can only join an iterable"
  | .stripArgument callee => s!"{callee} arg must be None or str"
  | .fillLength => "The fill character must be exactly one character long"
  | .fillType t => s!"The fill character must be a unicode character, not {t}"
  | .decodingText => "decoding str is not supported"
  | .decodingOther t => s!"decoding to str: need a bytes-like object, {t} found"
  | .unknownEncoding name => s!"unknown encoding: {name}"
  | .unknownErrorHandler name => "unknown error handler name " ++ inQuotes name
  | .cannotEncode codec q i limit => inQuotes codec ++ s!" codec can't encode character {q} in position {i}: "
      ++ s!"ordinal not in range({limit})"
  | .cannotEncodeRange codec i j limit => inQuotes codec ++ s!" codec can't encode characters in position {i}-{j}: "
      ++ s!"ordinal not in range({limit})"
  | .cannotDecode codec byte i reason => inQuotes codec ++ " codec can't decode byte 0x"
      ++ String.ofList (Text.hexPadded 2 byte) ++ s!" in position {i}: {reason}"
  | .cannotDecodeRange codec i j reason => inQuotes codec ++ s!" codec can't decode bytes in position {i}-{j}: {reason}"
  | .invalidSpecifier spec t => "Invalid format specifier " ++ inQuotes spec ++ " for object of type " ++ inQuotes t
  | .unknownCode code t => "Unknown format code " ++ inQuotes code ++ " for object of type " ++ inQuotes t
  | .valueRule text | .typeRule text | .overflowRule text => text
  | .unsupportedFormat t => s!"unsupported format string passed to {t}.__format__"
  | .codeOutOfRange => "%c arg not in range(0x110000)"
  | .notSerializable t => s!"Object of type {t} is not JSON serializable"
  | .keyType t => s!"keys must be str, int, float, bool or None, not {t}"
  | .nanNotAllowed => "Out of range float values are not JSON compliant"
  | .circular => "Circular reference detected"
  | .noSuchFile q => s!"[Errno 2] No such file or directory: {q}"
  | .notDirectory q => s!"[Errno 20] Not a directory: {q}"
  | .isDirectory q => s!"[Errno 21] Is a directory: {q}"
  | .invalidUrl text => text
  | .settingNotNumber name q => s!"{name} must be a number, got {q}"

end Fault
end Workflow
