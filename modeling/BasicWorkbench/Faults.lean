import BasicWorkbench.NumberText
import BasicWorkbench.QuotedText
import BasicWorkbench.Utf8Decoding

namespace BasicWorkbench

inductive SystemCause where
  | notFound
  | badFormat
  | denied
  | notDirectory
  | isDirectory
  | nameTooLong
  deriving DecidableEq, Repr

def SystemCause.number : SystemCause → Nat
  | .notFound => 2
  | .badFormat => 8
  | .denied => 13
  | .notDirectory => 20
  | .isDirectory => 21
  | .nameTooLong => 36

def SystemCause.words : SystemCause → Text
  | .notFound => "No such file or directory"
  | .badFormat => "Exec format error"
  | .denied => "Permission denied"
  | .notDirectory => "Not a directory"
  | .isDirectory => "Is a directory"
  | .nameTooLong => "File name too long"

structure SystemRefusal where
  cause : SystemCause
  path : Text
  deriving DecidableEq, Repr

def SystemRefusal.message (r : SystemRefusal) : Text :=
  "[Errno " ++ natText r.cause.number ++ "] " ++ r.cause.words ++ ": " ++ quoted r.path

/-- Failures of the tools themselves, which they report and survive. -/
inductive ToolFailure where
  | compilerMissing (path : Text)
  | sourceMissing (path : Text)
  | compilerStart (refusal : SystemRefusal)
  | programStart (program : Text) (refusal : SystemRefusal)
  deriving DecidableEq, Repr

def ToolFailure.message : ToolFailure → Text
  | .compilerMissing path => "Small Basic compiler not found at " ++ path
  | .sourceMissing path => "Source file not found: " ++ path
  | .compilerStart refusal => "Failed to launch Small Basic compiler: " ++ refusal.message
  | .programStart program refusal => "Failed to launch " ++ program ++ ": " ++ refusal.message

inductive PositionField where
  | line
  | character
  deriving DecidableEq, Repr

def PositionField.name : PositionField → Text
  | .line => "line"
  | .character => "character"

/-- Everything that can stop an operation. -/
inductive Fault where
  | tool (failure : ToolFailure)
  | system (refusal : SystemRefusal)
  | tooManyDigits (count : Nat)
  | columnWithoutLine
  | outOfRange (field : PositionField) (value : Int)
  | emptyName (path : Text)
  | nullInPath
  | noPath (kind : Text)
  | struckLevel
  | uncountableLimit (kind : Text)
  | fractionalLimit
  | noShareName
  | badBrackets
  | badFutureAddress
  | noAddress (host : Text)
  | oldAddressInBrackets
  | deceptiveAuthority (authority : Text)
  | noSettings (kind : Text)
  | unusableKey (kind : Text)
  | noWorkspace
  | unknownDocument (uri : Text)
  | notUtf8 (fault : Utf8Fault)
  | unusableParams
  | unreadableMessage
  deriving DecidableEq, Repr

def positionLimit : Nat := 2147483647

def Utf8Flaw.words : Utf8Flaw → Text
  | .badStart => "invalid start byte"
  | .badContinuation => "invalid continuation byte"
  | .cutShort => "unexpected end of data"

def Utf8Fault.message (f : Utf8Fault) : Text :=
  let place :=
    if f.bytes = 1 then "byte 0x" ++ hexText 2 f.byte ++ " in position " ++ natText f.position
    else "bytes in position " ++ natText f.position ++ "-" ++ natText (f.position + f.bytes - 1)
  "'utf-8' codec can't decode " ++ place ++ ": " ++ f.why.words

def Fault.message : Fault → Text
  | .tool failure => failure.message
  | .system refusal => refusal.message
  | .tooManyDigits count =>
    "Exceeds the limit (" ++ natText digitLimit ++ " digits) for integer string conversion: value has " ++
      natText count ++ " digits; use sys.set_int_max_str_digits() to increase the limit"
  | .columnWithoutLine => "CompilationError with a column must also have a line"
  | .outOfRange field value =>
    "Position." ++ field.name ++ " should be in range [0:" ++ natText positionLimit ++ "], but was " ++
      intText value ++ "."
  | .emptyName path => "PosixPath(" ++ quoted path ++ ") has an empty name"
  | .nullInPath => "embedded null byte"
  | .noPath kind => "expected str, bytes or os.PathLike object, not " ++ kind
  | .struckLevel => "'list' object has no attribute 'upper'"
  | .uncountableLimit kind => "'>' not supported between instances of '" ++ kind ++ "' and 'int'"
  | .fractionalLimit => "slice indices must be integers or None or have an __index__ method"
  | .noShareName => "substring not found"
  | .badBrackets => "Invalid IPv6 URL"
  | .badFutureAddress => "IPvFuture address is invalid"
  | .noAddress host => quoted host ++ " does not appear to be an IPv4 or IPv6 address"
  | .oldAddressInBrackets => "An IPv4 address cannot be in brackets"
  | .deceptiveAuthority authority =>
    "netloc '" ++ authority ++ "' contains invalid characters under NFKC normalization"
  | .noSettings kind => "'" ++ kind ++ "' object has no attribute 'get'"
  | .unusableKey kind => "unhashable type: '" ++ kind ++ "'"
  | .noWorkspace => "The workspace is not available - has the server been initialized?"
  | .unknownDocument uri => quoted uri
  | .notUtf8 fault => fault.message
  | .unusableParams => "Invalid Params"
  | .unreadableMessage => "Internal Error"

/-- The family of a fault, named in front of its message in the answers of the server. -/
def Fault.label : Fault → Text
  | .tool (.compilerMissing _) => "CompilerNotFoundError"
  | .tool (.sourceMissing _) => "SourceNotFoundError"
  | .tool (.compilerStart _) => "CompilerLaunchError"
  | .tool (.programStart _ _) => "ProgramLaunchError"
  | .system ⟨.notFound, _⟩ => "FileNotFoundError"
  | .system ⟨.badFormat, _⟩ => "OSError"
  | .system ⟨.denied, _⟩ => "PermissionError"
  | .system ⟨.notDirectory, _⟩ => "NotADirectoryError"
  | .system ⟨.isDirectory, _⟩ => "IsADirectoryError"
  | .system ⟨.nameTooLong, _⟩ => "OSError"
  | .tooManyDigits _ | .columnWithoutLine | .outOfRange _ _ | .emptyName _ | .nullInPath
  | .noShareName | .badBrackets | .badFutureAddress | .noAddress _ | .oldAddressInBrackets
  | .deceptiveAuthority _ => "ValueError"
  | .noSettings _ | .struckLevel => "AttributeError"
  | .unusableKey _ | .noPath _ | .uncountableLimit _ | .fractionalLimit => "TypeError"
  | .noWorkspace => "RuntimeError"
  | .unknownDocument _ => "KeyError"
  | .notUtf8 _ => "UnicodeDecodeError"
  | .unusableParams => "JsonRpcInvalidParams"
  | .unreadableMessage => "JsonRpcInternalError"

end BasicWorkbench
