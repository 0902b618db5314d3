import RabbitRemote.Charset.Fault
import RabbitRemote.Names
import RabbitRemote.Number.IntegerLiteral
import RabbitRemote.Text.Cut

namespace RabbitRemote

inductive Side where
  | left
  | right
deriving DecidableEq, Repr

def Side.name : Side → String
  | .left => "left"
  | .right => "right"

-- Everything that can go wrong, by cause. The wording is in `Failure.message` alone.
inductive Failure where
  -- instructions and their arguments
  | unknownName (table : Names.Table) (given : Value)
  | badTempo (given : Value)
  | badDuration (given : Value)
  | badAngle (given : Value)
  | noColour
  | nanToInteger
  | infinityToInteger
  -- integers too long to be written or read
  | integerTooLong
  | literalTooLong (figures : Nat)
  -- payloads
  | malformedPayload (fault : Number.LiteralFault) (piece : String)
  | unevenPayload (fields : Nat)
  | unknownActionKind (code : Int)
  -- charsets
  | unknownCharset (name : String)
  | nulInCharset
  | undecodable (charset reason : String)
  | codecFailed (message : String)
  | noTextCharset (name : String)
  | notEncodable (kind : String)
  | outsideServiceCharset (start : Nat) (first : Char) (length : Nat)
  -- batches and rabbits
  | unknownField (given : Value)
  | unhashable (kind : String)
  | unknownCommand (given : Value)
  | notAnEarPosition (side : Side)
  | earOutOfRange (side : Side) (position : Int)
  | missingCredentials (path : String)
  | transport (message : String)
  | service (label response : String)
  -- settings
  | undecodableFile (octet : UInt8) (fault : Charset.Fault)
  | noSectionHeader (source : String) (number : Nat) (line : String)
  | repeatedSection (source : String) (number : Nat) (name : String)
  | repeatedOption (source : String) (number : Nat) (section_ option : String)
  | unreadableLines (source : String) (lines : List (Nat × String))
  | notABoolean (given : String)
  | noHome
  | nulInPath
  -- log routing
  | unknownLevel (given : String)
  | notALevel (given : String)
  | fileInTheWay (path : String)
  | notADirectory (path : String)
  | isADirectory (path : String)
  | nameTooLong (path : String)
  | tooManyMissing

namespace Failure

inductive Kind where
  | refusal
  | transport
  | service
  | value
  | overflow
  | type
  | lookup
  | attribute
  | codec
  | undecodable
  | unencodable
  | home
  | fileExists
  | notADirectory
  | isADirectory
  | system
  | depth
  | missingHeader
  | parsing
  | repeatedOption
  | repeatedSection
deriving DecidableEq, Repr

def kind : Failure → Kind
  | .unknownName .. | .badTempo _ | .badDuration _ | .badAngle _ | .noColour => .refusal
  | .nanToInteger => .value
  | .infinityToInteger => .overflow
  | .integerTooLong | .literalTooLong _ => .value
  | .malformedPayload .. | .unevenPayload _ | .unknownActionKind _ => .refusal
  | .unknownCharset _ | .undecodable .. => .refusal
  | .codecFailed _ => .codec
  | .nulInCharset => .value
  | .noTextCharset _ => .lookup
  | .notEncodable _ => .attribute
  | .outsideServiceCharset .. => .unencodable
  | .unknownField _ => .refusal
  | .unhashable _ => .type
  | .unknownCommand _ => .value
  | .notAnEarPosition _ | .earOutOfRange .. | .missingCredentials _ => .refusal
  | .transport _ => .transport
  | .service .. => .service
  | .undecodableFile .. => .undecodable
  | .noSectionHeader .. => .missingHeader
  | .repeatedSection .. => .repeatedSection
  | .repeatedOption .. => .repeatedOption
  | .unreadableLines .. => .parsing
  | .notABoolean _ => .value
  | .noHome => .home
  | .nulInPath => .value
  | .unknownLevel _ => .value
  | .notALevel _ => .type
  | .fileInTheWay _ => .fileExists
  | .notADirectory _ => .notADirectory
  | .isADirectory _ => .isADirectory
  | .nameTooLong _ => .system
  | .tooManyMissing => .depth

-- The failures that the rabbit's own operations announce; a command line reports them and ends
-- with exit code one.
def isAnnounced (failure : Failure) : Bool :=
  match failure.kind with
  | .refusal | .transport | .service => true
  | _ => false

def limitText : String := "Exceeds the limit (4300 digits) for integer string conversion"
def limitAdvice : String := "; use sys.set_int_max_str_digits() to increase the limit"

def overlongText (figures : Nat) : String :=
  limitText ++ ": value has " ++ Number.decimalText figures ++ " digits" ++ limitAdvice

def literalText (fault : Number.LiteralFault) (piece : String) : String :=
  match fault with
  | .notALiteral => "invalid literal for int() with base 10: " ++
      String.ofList ((Text.quote piece.toList).take 200)
  | .tooLong figures => overlongText figures

def lineNumber (number : Nat) : String :=
  (if number < 10 then " " else "") ++ Number.decimalText number

def inSource (source : String) (number : Nat) : String :=
  "While reading from " ++ source ++ " [line " ++ lineNumber number ++ "]: "

-- One octet or character is shown itself, several by the places of the first and the last.
def placeOf (single shown several : String) (start length : Nat) : String :=
  if length = 1 then single ++ " " ++ shown ++ " in position " ++ Number.decimalText start
  else
    several ++ " in position " ++ Number.decimalText start ++ "-" ++
      Number.decimalText (start + length - 1 : Nat)

def spoiledOctets (octet : UInt8) (fault : Charset.Fault) : String :=
  let shown := "0x" ++ String.ofList (Text.hexFigures 2 octet.toNat)
  "\x27utf-8\x27 codec can\x27t decode " ++
    placeOf "byte" shown "bytes" fault.start fault.length ++ ": " ++ fault.reason.text

def strangeCharacters (start : Nat) (first : Char) (length : Nat) : String :=
  let shown := "\x27" ++ String.ofList (Text.codeEscape first) ++ "\x27"
  "\x27latin-1\x27 codec can\x27t encode " ++
    placeOf "character" shown "characters" start length ++ ": ordinal not in range(256)"

def message : Failure → String
  | .unknownName table given => "Unknown " ++ table.title ++ " " ++ given.quoted ++
      " (expected one of: " ++ Value.commaSeparated table.sorted ++ ")"
  | .badTempo given => "Tempo must be a positive integer, got " ++ given.quoted
  | .badDuration given => "Duration must be a non-negative integer, got " ++ given.quoted
  | .badAngle given => "Ear angle must be a number, got " ++ given.quoted
  | .noColour => "LED colour is required"
  | .nanToInteger => "cannot convert float NaN to integer"
  | .infinityToInteger => "cannot convert float infinity to integer"
  | .integerTooLong => limitText ++ limitAdvice
  | .literalTooLong figures => overlongText figures
  | .malformedPayload fault piece =>
      "Malformed choreography payload: " ++ literalText fault piece
  | .unevenPayload fields => "Choreography payload has " ++ Number.decimalText fields ++
      " action fields, expected a multiple of 6"
  | .unknownActionKind code => "Unknown action kind " ++ Number.decimalText code
  | .unknownCharset name => "Unknown caller charset: " ++ Text.quoted name
  | .nulInCharset => "embedded null character"
  | .undecodable charset reason => "Text is not valid " ++ charset ++ ": " ++ reason
  | .codecFailed message => message
  | .noTextCharset name => "\x27" ++ String.ofList (Text.withinOctets 400 name.toList) ++
      "\x27 is not a text encoding; use codecs.decode() to handle arbitrary codecs"
  | .notEncodable kind => Text.quoted kind ++ " object has no attribute \x27encode\x27"
  | .outsideServiceCharset start first length => strangeCharacters start first length
  | .unknownField given => "Unknown message field: " ++ given.quoted
  | .unhashable kind => "unhashable type: " ++ Text.quoted kind
  | .unknownCommand given => given.quoted ++ " is not a valid CommandKind"
  | .notAnEarPosition side => "The " ++ side.name ++ " ear position must be an integer"
  | .earOutOfRange side position => "The " ++ side.name ++
      " ear position must be between 0 and 16, got " ++ Number.decimalText position
  | .missingCredentials path => "Both mac and token must be set in [nabaztag] of " ++ path
  | .transport message => message
  | .service label response => label ++ ": " ++ response
  | .undecodableFile octet fault => spoiledOctets octet fault
  | .noSectionHeader source number line => "File contains no section headers.\nfile: " ++ source ++
      ", line: " ++ Number.decimalText number ++ "\n" ++ Text.quoted line
  | .repeatedSection source number name =>
      inSource source number ++ "section " ++ Text.quoted name ++ " already exists"
  | .repeatedOption source number section_ option => inSource source number ++ "option " ++
      Text.quoted option ++ " in section " ++ Text.quoted section_ ++ " already exists"
  | .unreadableLines source lines => "Source contains parsing errors: " ++ source ++
      String.join (lines.map fun (number, line) =>
        "\n\t[line " ++ lineNumber number ++ "]: " ++ Text.quoted line)
  | .notABoolean given => "Not a boolean: " ++ given
  | .noHome => "Could not determine home directory."
  | .nulInPath => "embedded null byte"
  | .unknownLevel given => "Unknown level: " ++ Text.quoted given
  | .notALevel given => "Level not an integer or a valid string: " ++ given
  | .fileInTheWay path => "[Errno 17] File exists: " ++ Text.quoted path
  | .notADirectory path => "[Errno 20] Not a directory: " ++ Text.quoted path
  | .isADirectory path => "[Errno 21] Is a directory: " ++ Text.quoted path
  | .nameTooLong path => "[Errno 36] File name too long: " ++ Text.quoted path
  | .tooManyMissing => "maximum recursion depth exceeded while calling a Python object"

-- A failure that shows a value gives way to another one if the value cannot be written.
def showing (given : Value) (failure : Failure) : Failure :=
  if given.writable then failure else .integerTooLong

end Failure
end RabbitRemote
