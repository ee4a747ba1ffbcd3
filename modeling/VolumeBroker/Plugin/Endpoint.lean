import VolumeBroker.Text.Percent
/-!
# Addresses of plugins

A plugin is configured by its address, `host:port` or a complete URL. Requests are posted to `csi`
below it. `Endpoint.requestPath` is the path that a request names: dot segments are resolved and
characters that a path may not hold are percent-encoded.
-/

namespace VolumeBroker

/-- Where the requests to a plugin are posted. -/
structure Endpoint where
  url : String
deriving DecidableEq, Repr

namespace Endpoint

/-- A text without trailing slashes. -/
def trimSlashes (text : List Char) : List Char := (text.reverse.dropWhile (· == '/')).reverse

/-- The endpoint of a configured address. -/
def ofAddress (address : String) : Endpoint :=
  let trimmed := String.ofList (trimSlashes address.toList)
  let base :=
    if trimmed.startsWith "http://" || trimmed.startsWith "https://" then trimmed
    else "http://" ++ trimmed
  ⟨base ++ "/csi"⟩

/-! ### The parts of the URL -/

/-- Whether a character ends the authority of a URL. -/
def endsAuthority (c : Char) : Bool := c == '/' || c == '\\' || c == '?' || c == '#'

/-- The URL behind its scheme and the slashes that follow it. -/
def behindScheme (e : Endpoint) : List Char :=
  let (_, rest) := Split.cut ':' e.url.toList
  (rest.getD []).dropWhile fun c => c == '/' || c == '\\'

/-- The scheme of the URL. -/
def scheme (e : Endpoint) : String := String.ofList (Split.cut ':' e.url.toList).1

/-- The host and port of the URL. -/
def authority (e : Endpoint) : String :=
  String.ofList (e.behindScheme.takeWhile fun c => !endsAuthority c)

/-- The visible characters that do not stand for themselves in a path. -/
def encodedInPath : List Char := ['"', '#', '<', '>', '?', '`', '\x7b', '\x7d']

/-- Whether a byte stands for itself in a path. -/
def isPathByte (byte : UInt8) : Bool :=
  0x21 ≤ byte.toNat && byte.toNat ≤ 0x7E && !encodedInPath.contains (Char.ofNat byte.toNat)

/-- A byte in a path, percent-encoded unless it stands for itself. -/
def pathByte (byte : UInt8) : List Char :=
  if isPathByte byte then [Char.ofNat byte.toNat]
  else
    let digits := (Nat.toDigits 16 byte.toNat).map Char.toUpper
    '%' :: List.replicate (2 - digits.length) '0' ++ digits

/-- One segment more of a path, read from left to right with the last segment first. -/
def pushSegment (segments : List (List Char)) (segment : List Char) (isLast : Bool) :
    List (List Char) :=
  let plain := String.ofList (segment.map Char.toLower)
  if plain = "." ∨ plain = "%2e" then if isLast then [] :: segments else segments
  else if plain = ".." ∨ plain = ".%2e" ∨ plain = "%2e." ∨ plain = "%2e%2e" then
    if isLast then [] :: segments.drop 1 else segments.drop 1
  else segment :: segments

/-- The segments of a path with its dot segments resolved. -/
def resolve (segments : List (List Char)) : List (List Char) → List (List Char)
  | [] => segments.reverse
  | segment :: rest => resolve (pushSegment segments segment rest.isEmpty) rest

/-- The path of the URL. -/
def requestPath (e : Endpoint) : String :=
  let behind := e.behindScheme.dropWhile fun c => !endsAuthority c
  let raw := (behind.takeWhile fun c => c != '?' && c != '#').map fun c => if c = '\\' then '/' else c
  let segments := resolve [] (Split.splitAt '/' (raw.drop 1))
  let path := segments.flatMap fun segment =>
    '/' :: (Utf8.bytes (String.ofList segment)).flatMap pathByte
  String.ofList path

end Endpoint

end VolumeBroker
