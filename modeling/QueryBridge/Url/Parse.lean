import QueryBridge.Url.Authority

/-!
# URLs

A text is a URL if it begins with a scheme and its authority is well formed; path,
query and fragment are brought into normal form and never fail. Only web addresses
are kept in full: of any other URL the scheme is all that matters here.
-/

set_option autoImplicit false

namespace QueryBridge.Url

/-- A web address. -/
structure WebAddress where
  /-- Whether the scheme is https. -/
  secure : Bool
  authority : Authority
  /-- The segments of the path, each behind a slash. -/
  path : List (List Char)
  query : Option (List Char)
  fragment : Option (List Char)
  deriving DecidableEq, Repr

/-- What a URL is. -/
inductive Parsed where
  | web (address : WebAddress)
  | other (scheme : List Char)
  deriving DecidableEq, Repr

/-! ## Normal form of the parts -/

/-- A control character or the space. -/
def isEdge (c : Char) : Bool :=
  c.toNat ≤ 0x20

/-- A tab or a line break, which a URL may hold anywhere without meaning. -/
def isIgnored (c : Char) : Bool :=
  c = '\t' || c = '\n' || c = '\r'

/-- A text without the control characters and spaces around it and the ignored characters in it. -/
def clean (s : List Char) : List Char :=
  (((s.dropWhile isEdge).reverse.dropWhile isEdge).reverse).filter (!isIgnored ·)

/-- A segment that stands for the directory itself. -/
def isSingleDot (segment : List Char) : Bool :=
  let lower := segment.map Char.toLower
  lower = ['.'] || lower = ['%', '2', 'e']

/-- A segment that stands for the directory above. -/
def isDoubleDot (segment : List Char) : Bool :=
  [['.', '.'], ['.', '%', '2', 'e'], ['%', '2', 'e', '.'], ['%', '2', 'e', '%', '2', 'e']].contains
    (segment.map Char.toLower)

/-- The segments of a path behind those before, without dot segments. -/
def resolve (before : List (List Char)) : List (List Char) → List (List Char)
  | [] => before
  | segment :: rest =>
    let kept := if isDoubleDot segment then before.dropLast else before
    if isDoubleDot segment || isSingleDot segment then
      resolve (if rest.isEmpty then kept ++ [[]] else kept) rest
    else resolve (before ++ [segment]) rest

/-- A character that separates the segments of a web path. -/
def isSlash (c : Char) : Bool :=
  c = '/' || c = '\\'

/-- The path of a web address from the text behind its authority. -/
def pathOf (s : List Char) : List (List Char) :=
  let segments := Text.splitAll isSlash (if s.head?.any isSlash then s.tail else s)
  resolve [] (segments.map (Percent.encode Percent.pathSet))

/-- The text behind the first character of a kind, if there is one. -/
def behind? (mark : Char) (s : List Char) : Option (List Char) :=
  match s.dropWhile (· ≠ mark) with
  | [] => none
  | _ :: rest => some rest

/-- The web address with an authority and the text behind it. -/
def webAddress (secure : Bool) (authority : Authority) (s : List Char) : WebAddress :=
  let beforeFragment := s.takeWhile (· ≠ '#')
  { secure := secure
    authority := authority
    path := pathOf (beforeFragment.takeWhile (· ≠ '?'))
    query := (behind? '?' beforeFragment).map (Percent.encode Percent.querySet)
    fragment := (behind? '#' s).map (Percent.encode Percent.fragmentSet) }

/-! ## Reading -/

/-- A character of a scheme. -/
def isSchemeChar (c : Char) : Bool :=
  c.isAlphanum || c = '+' || c = '-' || c = '.'

/-- The scheme of a text, in lower case, and the text behind its colon. -/
def splitScheme (s : List Char) : Option (List Char × List Char) :=
  match s.head?.any Char.isAlpha, s.dropWhile isSchemeChar with
  | true, ':' :: rest => some ((s.takeWhile isSchemeChar).map Char.toLower, rest)
  | _, _ => none

/-- The service that a scheme asks for by itself. -/
def defaultService (secure : Bool) : Nat :=
  if secure then 443 else 80

/-- The text in front of what ends an authority, and the rest. -/
def splitAuthority (isWeb : Bool) (s : List Char) : List Char × List Char :=
  (s.takeWhile (!endsAuthority isWeb ·), s.dropWhile (!endsAuthority isWeb ·))

/-- The authority without a service that the scheme asks for anyway. -/
def Authority.normalize (secure : Bool) (authority : Authority) : Authority :=
  if authority.service = some (defaultService secure) then { authority with service := none }
  else authority

/-- The web address behind the colon of its scheme. Any number of slashes may stand there. -/
def parseWeb (secure : Bool) (s : List Char) : Except Fault WebAddress :=
  let (authorityText, rest) := splitAuthority true (s.dropWhile isSlash)
  match parseWebAuthority authorityText with
  | .error fault => .error fault
  | .ok authority => .ok (webAddress secure (authority.normalize secure) rest)

/-- A drive letter and a colon or a bar, which stands for a path. -/
def isDrive : List Char → Bool
  | [letter, mark] => letter.isAlpha && (mark = ':' || mark = '|')
  | _ => false

/-- Checks the host of a file, which may be absent. -/
def checkFile : List Char → Except Fault Unit
  | a :: b :: rest =>
    let host := rest.takeWhile (!endsAuthority true ·)
    if isSlash a && isSlash b && !host.isEmpty && !isDrive host then
      (Host.parse host).map fun _ => ()
    else .ok ()
  | _ => .ok ()

/-- Checks what stands behind the colon of a scheme outside the web. -/
def checkOther (scheme rest : List Char) : Except Fault Unit :=
  if scheme = "file".toList then checkFile rest
  else if ["ftp", "ws", "wss"].any (·.toList = scheme) then (parseWeb false rest).map fun _ => ()
  else
    match rest with
    | '/' :: '/' :: s => checkAuthority (splitAuthority false s).1
    | _ => .ok ()

/-- The URL that a text spells. -/
def parse (s : List Char) : Except Fault Parsed :=
  match splitScheme (clean s) with
  | none => .error .relativeWithoutBase
  | some (scheme, rest) =>
    if scheme = "http".toList then (parseWeb false rest).map .web
    else if scheme = "https".toList then (parseWeb true rest).map .web
    else (checkOther scheme rest).map fun _ => .other scheme

/-! ## Writing -/

namespace WebAddress

/-- A web address without the user. -/
def withoutUser (address : WebAddress) : WebAddress :=
  { address with authority := { address.authority with username := [], password := [] } }

/-- The user in front of a host, with its at sign. -/
def writeUser (authority : Authority) : List Char :=
  if authority.username.isEmpty && authority.password.isEmpty then []
  else authority.username ++
    (if authority.password.isEmpty then [] else ':' :: authority.password) ++ ['@']

/-- The path and the query, which are what a request asks for. -/
def target (address : WebAddress) : List Char :=
  address.path.flatMap ('/' :: ·) ++ address.query.elim [] ('?' :: ·)

/-- The text of a web address. -/
def write (address : WebAddress) : List Char :=
  (if address.secure then "https://" else "http://").toList ++ writeUser address.authority ++
    address.authority.host.write ++
    address.authority.service.elim [] (fun n => ':' :: Text.decimal n) ++
    address.target ++ address.fragment.elim [] ('#' :: ·)

end WebAddress

end QueryBridge.Url
