import BasicWorkbench.Authorities

namespace BasicWorkbench

structure UriParts where
  scheme : Text
  authority : Text
  path : Text
  deriving DecidableEq, Repr

def isSchemeChar (c : Char) : Bool := c.isAlphanum || ['+', '-', '.'].contains c

def cutScheme (s : Text) : Text × Text :=
  match cutBefore (· == ':') s with
  | (c :: scheme, ':' :: rest) =>
    if c.isAlpha && scheme.all isSchemeChar then (asciiLower (c :: scheme), rest) else ([], s)
  | _ => ([], s)

/-- Schemes whose last path segment may carry parameters behind a semicolon. -/
def parameterSchemes : List Text :=
  ["", "ftp", "hdl", "prospero", "http", "imap", "https", "shttp", "rtsp", "rtspu", "sip", "sips",
    "mms", "sftp", "tel"]

def dropParameters (path : Text) : Text :=
  let last := (path.reverse.takeWhile (· != '/')).reverse
  path.take (path.length - last.length) ++ last.takeWhile (· != ';')

/-- Takes a URI apart, without query and fragment. Control characters and blanks in front go, tabs and
line breaks go everywhere; escapes are read after the parts are found. -/
def UriParts.ofUri (uri : Text) : Except Fault UriParts := do
  let s := (uri.dropWhile fun c => c.toNat ≤ 0x20).filter fun c => !(['\t', '\r', '\n'].contains c)
  let (scheme, s) := cutScheme s
  let (authority, s) :=
    match s with
    | '/' :: '/' :: rest => cutBefore (['/', '?', '#'].contains ·) rest
    | _ => ([], s)
  checkAuthority authority
  let path := s.takeWhile fun c => !(['?', '#'].contains c)
  let path := if parameterSchemes.contains scheme then dropParameters path else path
  .ok ⟨scheme, percentDecode authority, percentDecode path⟩

def startsWithDrive : Text → Bool
  | '/' :: c :: ':' :: _ => c.isAlpha
  | _ => false

/-- The file that the parts of a URI name. For a file, a share of another machine gets two slashes in
front and a drive loses its slash; for other schemes the path stays as it is. -/
def UriParts.filePath (parts : UriParts) : Text :=
  if parts.scheme != "file".toList then parts.path
  else if !parts.authority.isEmpty && !parts.path.isEmpty then
    ['/', '/'] ++ parts.authority ++ parts.path
  else if startsWithDrive parts.path then
    match parts.path with
    | _ :: drive :: rest => drive.toLower :: rest
    | path => path
  else parts.path

def pathOfUri (uri : Text) : Except Fault Text := UriParts.filePath <$> UriParts.ofUri uri

/-- The URI of a file. A path with two slashes in front has to name something on the share; one that
still starts with two slashes behind an empty share's name gets none in front. -/
def uriOfPath (path : Text) : Except Fault Text := do
  let (authority, path) ←
    match path with
    | '/' :: '/' :: rest =>
      match cutBefore (· == '/') rest with
      | (_, []) => .error .noShareName
      | (authority, path) => .ok (authority, path)
    | path => .ok ([], path)
  let path := if path.head? = some '/' then path else '/' :: path
  let quotedPath :=
    if startsWithDrive path then asciiLower (path.take 3) ++ percentEncode (path.drop 3)
    else percentEncode path
  if authority.isEmpty && ['/', '/'].isPrefixOf path then .ok ("file:" ++ quotedPath)
  else .ok ("file://" ++ percentEncode authority ++ quotedPath)

end BasicWorkbench
