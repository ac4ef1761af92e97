import SctpProbe.SystemError
set_option autoImplicit false

namespace SctpProbe

/-- What a program runs on. No object is larger than the memory. -/
class Machine where
  memory : Nat

/-- A machine of four gigabytes, where no other one is named. -/
instance Machine.usual : Machine := ⟨0x100000000⟩

inductive Fault
  | system (error : SystemError)
  /-- Something waits for an event that never comes. -/
  | endless
  -- settings
  | unknownSetting (name : String)
  | repeatedSetting (name : String)
  | incomparable (relation left right : String)
  | malformedPort (shown : String)
  | illegalBufferSize (shown : String)
  | unknownMode (shown : String)
  | unpositivePollTimeout
  -- calls
  | unknownArgument (name : String)
  | missingArguments (names : List String)
  -- addresses
  | notAnAddress (shown : String)
  | noMappedForm
  -- numbers
  | infiniteNumber
  | notANumber
  | tooManyDigits
  | notWhole (kind : String)
  | zeroStep
  -- bytes
  | notBytes (kind target : String)
  | textWithoutEncoding
  | negativeCount
  | countTooLarge
  | bytesTooLarge
  | byteOutOfRange
  | columnsTooWide
  | outOfMemory
  -- delivery information
  | shortDeliveryInfo (got : Nat)
  | identifierNotInteger (kind : String)
  | identifierNegative
  | identifierTooLong
  | identifierTooLarge
  | fieldNotInteger
  | fieldOutOfReach
  | shortFieldOutOfRange
  | wordFieldOutOfRange
  -- templates
  | templateEnds
  | templateKeyEnds
  | namesExpected
  | positionExpected (kind : String)
  | unknownConversion (conversion : Char) (index : Nat)
  | tooFewArguments
  | tooManyArguments
  | starNotInteger
  | starTooLarge (target : String)
  | widthTooBig
  | precisionTooBig
  | precisionTooLarge
  | numberTooLarge
  | numberExpected (conversion : Char) (kind : String)
  | integerExpected (conversion : Char) (kind : String)
  | realExpected (kind : String)
  | characterExpected
  | characterOutOfRange
  -- logging
  | noLength (kind : String)
  | notJoinable (kind : String)
  | notALayout (kind : String)
  | invalidLayout (layout : String)
  | unknownField (shown : String)
  | unknownLevel (shown : String)
  | unhashable (kind : String)
  deriving DecidableEq, Repr

namespace Fault

inductive Family
  | system (kind : SystemError.Kind)
  | interrupted
  | wrongType
  | wrongValue
  | overflow
  | missingAttribute
  | missingKey
  | packing
  | memory
  deriving DecidableEq, Repr

def family : Fault → Family
  | .system e => .system e.kind
  | .endless => .interrupted
  | .unknownSetting _ | .repeatedSetting _ | .unknownArgument _ | .missingArguments _
  | .incomparable .. | .notWhole _ | .notBytes .. | .textWithoutEncoding
  | .identifierNotInteger _ | .namesExpected | .positionExpected _ | .noLength _ | .notJoinable _
  | .notALayout _ | .unhashable _ | .tooFewArguments | .tooManyArguments
  | .starNotInteger | .numberExpected .. | .integerExpected .. | .realExpected _
  | .characterExpected => .wrongType
  | .malformedPort _ | .illegalBufferSize _ | .unknownMode _ | .unpositivePollTimeout
  | .notAnAddress _ | .notANumber | .tooManyDigits | .zeroStep | .negativeCount | .byteOutOfRange
  | .shortDeliveryInfo _ | .templateEnds | .templateKeyEnds | .unknownConversion ..
  | .invalidLayout _ | .unknownField _ | .columnsTooWide | .widthTooBig
  | .precisionTooBig => .wrongValue
  | .infiniteNumber | .countTooLarge | .bytesTooLarge | .starTooLarge _ | .precisionTooLarge
  | .numberTooLarge | .identifierNegative | .identifierTooLong
  | .identifierTooLarge | .characterOutOfRange => .overflow
  | .noMappedForm => .missingAttribute
  | .outOfMemory => .memory
  | .unknownLevel _ => .missingKey
  | .fieldNotInteger | .fieldOutOfReach | .shortFieldOutOfRange | .wordFieldOutOfRange => .packing

def enumerated : List String → String
  | [] => ""
  | [a] => a
  | [a, b] => a ++ " and " ++ b
  | ns => ", ".intercalate ns.dropLast ++ ", and " ++ ns.getLastD ""

def message : Fault → String
  | .system e => e.message
  | .endless => ""
  | .unknownSetting n => "Config.__init__() got an unexpected keyword argument '" ++ n ++ "'"
  | .repeatedSetting n => "Config.__init__() got multiple values for argument '" ++ n ++ "'"
  | .unknownArgument n => "main() got an unexpected keyword argument '" ++ n ++ "'"
  | .missingArguments ns =>
    "main() missing " ++ toString ns.length ++ " required positional argument" ++
      (if ns.length = 1 then "" else "s") ++ ": " ++ enumerated (ns.map fun n => "'" ++ n ++ "'")
  | .incomparable r a b =>
    "'" ++ r ++ "' not supported between instances of '" ++ a ++ "' and '" ++ b ++ "'"
  | .malformedPort s => "Malformed port given: " ++ s
  | .illegalBufferSize s => "Illegal recv buffer size given: " ++ s
  | .unknownMode s => "Unknown mode " ++ s ++ ", expected one of stream, message"
  | .unpositivePollTimeout => "poll_timeout must be positive"
  | .notAnAddress s => s ++ " does not appear to be an IPv4 or IPv6 address"
  | .noMappedForm => "'IPv4Address' object has no attribute 'ipv4_mapped'"
  | .infiniteNumber => "cannot convert float infinity to integer"
  | .notANumber => "cannot convert float NaN to integer"
  | .tooManyDigits =>
    "Exceeds the limit (4300 digits) for integer string conversion; " ++
      "use sys.set_int_max_str_digits() to increase the limit"
  | .notWhole k => "'" ++ k ++ "' object cannot be interpreted as an integer"
  | .zeroStep => "range() arg 3 must not be zero"
  | .notBytes k t => "cannot convert '" ++ k ++ "' object to " ++ t
  | .textWithoutEncoding => "string argument without an encoding"
  | .negativeCount => "negative count"
  | .countTooLarge => "cannot fit 'int' into an index-sized integer"
  | .bytesTooLarge => "byte string is too large"
  | .byteOutOfRange => "bytes must be in range(0, 256)"
  | .columnsTooWide => "Too many decimal digits in format string"
  | .outOfMemory => ""
  | .shortDeliveryInfo n => "sctp_sndrcvinfo needs 32 bytes, got " ++ toString n
  | .identifierNotInteger k => "expected int, " ++ k ++ " found"
  | .identifierNegative => "can't convert negative value to unsigned int"
  | .identifierTooLong => "Python int too large to convert to C unsigned long"
  | .identifierTooLarge => "int larger than 32 bits"
  | .fieldNotInteger => "required argument is not an integer"
  | .fieldOutOfReach => "argument out of range"
  | .shortFieldOutOfRange => "ushort format requires 0 <= number <= 65535"
  | .wordFieldOutOfRange => "'I' format requires 0 <= number <= 4294967295"
  | .templateEnds => "incomplete format"
  | .templateKeyEnds => "incomplete format key"
  | .namesExpected => "format requires a mapping"
  | .positionExpected k => k ++ " indices must be integers or slices, not str"
  | .unknownConversion c i =>
    let shown := if 31 ≤ c.toNat ∧ c.toNat < 127 then c else '?'
    "unsupported format character '" ++ shown.toString ++ "' (0x" ++
      String.ofList (Nat.toDigits 16 c.toNat) ++ ") at index " ++ toString i
  | .tooFewArguments => "not enough arguments for format string"
  | .tooManyArguments => "not all arguments converted during string formatting"
  | .starNotInteger => "* wants int"
  | .starTooLarge t => "Python int too large to convert to C " ++ t
  | .widthTooBig => "width too big"
  | .precisionTooBig => "precision too big"
  | .precisionTooLarge => "precision too large"
  | .numberTooLarge => "int too large to convert to float"
  | .numberExpected c k =>
    "%" ++ c.toString ++ " format: a real number is required, not " ++ k
  | .integerExpected c k => "%" ++ c.toString ++ " format: an integer is required, not " ++ k
  | .realExpected k => "must be real number, not " ++ k
  | .characterExpected => "%c requires int or char"
  | .characterOutOfRange => "%c arg not in range(0x110000)"
  | .noLength k => "object of type '" ++ k ++ "' has no len()"
  | .notJoinable k => "can only concatenate str (not \"" ++ k ++ "\") to str"
  | .notALayout k => "expected string or bytes-like object, got '" ++ k ++ "'"
  | .invalidLayout l => "Invalid format '" ++ l ++ "' for '%' style"
  | .unknownField s => "Formatting field not found in record: " ++ s
  | .unknownLevel s => s
  | .unhashable k => "unhashable type: '" ++ k ++ "'"

end Fault

end SctpProbe
