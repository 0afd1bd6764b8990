import ObservabilityLab.Python.Text

/-!
# URLs

The parts of a URL, as `urllib.parse.urlsplit` finds them.

## Main definitions

* `UrlTables`: the tables of IP addresses and of compatible characters
* `SplitResult`, `urlsplit`: the parts of a URL
* `SplitResult.hostname`, `SplitResult.port`: what its network location names
-/

namespace Python

/-! ## Splitting a URL -/

/-- The parts of the runtime that look at network locations. -/
class UrlTables where
  /-- `ipaddress.ip_address(text).version`; `none` is a `ValueError`. -/
  ipVersion : List Char → Option ℕ
  /-- `unicodedata.normalize("NFKC", text)` -/
  nfkc : List Char → List Char

/-- No text is an IP address, and no character has a compatible form. -/
@[reducible] def plainUrls : UrlTables where
  ipVersion _ := none
  nfkc cs := cs

/-- `SplitResult` -/
structure SplitResult where
  scheme : String
  netloc : String
  path : String
  query : String
  fragment : String

/-- `text.partition(c)`, without the separator -/
def partitionAt (c : Char) (cs : List Char) : List Char × List Char :=
  (cs.takeWhile (· ≠ c), (cs.dropWhile (· ≠ c)).tail)

/-- `text.rpartition(c)[2]` -/
def afterLast (c : Char) (cs : List Char) : List Char := (cs.reverse.takeWhile (· ≠ c)).reverse

def isSchemeChar (c : Char) : Bool := isAsciiLetter c || isAsciiDigit c || c ∈ ['+', '-', '.']

/-- The scheme, in lower case, and what comes after it. -/
def splitScheme (url : List Char) : List Char × List Char :=
  let (name, rest) := partitionAt ':' url
  if ':' ∈ url ∧ name.head?.any isAsciiLetter ∧ name.all isSchemeChar then
    (name.map Char.toLower, rest)
  else ([], url)

/-- `_splitnetloc(url, 2)`, when there are two slashes -/
def splitNetloc (url : List Char) : List Char × List Char :=
  match url with
  | '/' :: '/' :: rest => rest.span (· ∉ ['/', '?', '#'])
  | _ => ([], url)

/-- `\Av[a-fA-F0-9]+\..+\Z` -/
def isFutureAddress (host : List Char) : Bool :=
  match host with
  | 'v' :: rest =>
    let (digits, rest) := rest.span fun c => isLowerHex c.toLower
    digits ≠ [] && rest.head? = some '.' && rest.tail ≠ [] && '\n' ∉ rest
  | _ => false

section Urls

variable [UrlTables] [UnicodeTables]

/-- `_check_bracketed_host(hostname)` -/
def checkBracketedHost (host : List Char) : Except String Unit :=
  if host.head? = some 'v' then
    if isFutureAddress host then .ok () else .error "IPvFuture address is invalid"
  else
    match UrlTables.ipVersion host with
    | none =>
      .error (reprText (String.ofList host) ++ " does not appear to be an IPv4 or IPv6 address")
    | some 4 => .error "An IPv4 address cannot be in brackets"
    | some _ => .ok ()

/-- `_check_bracketed_netloc(netloc)` -/
def checkBracketedNetloc (netloc : List Char) : Except String Unit :=
  let (before, bracketed) := partitionAt '[' (afterLast '@' netloc)
  if '[' ∈ afterLast '@' netloc then
    if before ≠ [] then .error "Invalid IPv6 URL"
    else
      let (host, port) := partitionAt ']' bracketed
      if port ≠ [] ∧ port.head? ≠ some ':' then .error "Invalid IPv6 URL"
      else checkBracketedHost host
  else checkBracketedHost (partitionAt ':' (afterLast '@' netloc)).1

/-- `_checknetloc(netloc)` -/
def checkNetloc (netloc : List Char) : Except String Unit :=
  let plain := netloc.filter (· ∉ ['@', ':', '#', '?'])
  if netloc.all (·.toNat < 0x80) ∨ plain = UrlTables.nfkc plain then .ok ()
  else if (UrlTables.nfkc plain).any (· ∈ ['/', '?', '#', '@', ':']) then
    .error ("netloc '" ++ String.ofList netloc ++
      "' contains invalid characters under NFKC normalization")
  else .ok ()

/-- `urlsplit(url)`, with the text of its `ValueError` -/
def urlsplit (url : String) : Except String SplitResult := do
  let stripped := (url.toList.dropWhile (·.toNat ≤ 0x20)).filter (· ∉ ['\t', '\r', '\n'])
  let (scheme, rest) := splitScheme stripped
  let (netloc, rest) := splitNetloc rest
  if decide ('[' ∈ netloc) ≠ decide (']' ∈ netloc) then throw "Invalid IPv6 URL"
  if '[' ∈ netloc then checkBracketedNetloc netloc
  let (rest, fragment) := partitionAt '#' rest
  let (path, query) := partitionAt '?' rest
  checkNetloc netloc
  return ⟨String.ofList scheme, String.ofList netloc, String.ofList path, String.ofList query,
    String.ofList fragment⟩

end Urls

/-! ## Network locations -/

namespace SplitResult

/-- `_hostinfo`, where no port is an empty one -/
def hostinfo (parts : SplitResult) : List Char × List Char :=
  let info := afterLast '@' parts.netloc.toList
  if '[' ∈ info then
    let (host, rest) := partitionAt ']' (partitionAt '[' info).2
    (host, (partitionAt ':' rest).2)
  else partitionAt ':' info

/-- A host in lower case, without the zone of a scoped address. -/
def lowerHost [UnicodeTables] (host : List Char) : String :=
  String.ofList (UnicodeTables.lower (host.takeWhile (· ≠ '%')) ++ host.dropWhile (· ≠ '%'))

/-- `parts.hostname` -/
def hostname [UnicodeTables] (parts : SplitResult) : Option String :=
  if parts.hostinfo.1 = [] then none else some (lowerHost parts.hostinfo.1)

/-- The number of some decimal digits. -/
def digitsValue (digits : List Char) : ℕ :=
  digits.foldl (fun n c => 10 * n + (c.toNat - '0'.toNat)) 0

/-- `parts.port`, with the text of its `ValueError` -/
def port [UnicodeTables] (parts : SplitResult) : Except String (Option ℕ) :=
  let digits := parts.hostinfo.2
  if digits = [] then .ok none
  else if ¬ digits.all isAsciiDigit then
    .error ("Port could not be cast to integer value as " ++ reprText (String.ofList digits))
  else if digitsValue digits ≤ 65535 then .ok (some (digitsValue digits))
  else .error "Port out of range 0-65535"

end SplitResult

end Python
