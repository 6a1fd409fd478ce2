import QueryBridge.Url.Host

/-!
# Authorities

An authority is a user, a host and a number of the service at the host. It ends
before a slash, a question mark or a number sign, and in a web address also before
a backslash.
-/

set_option autoImplicit false

namespace QueryBridge.Url

/-- Who asks, which host, and which service there. -/
structure Authority where
  username : List Char
  password : List Char
  host : Host
  service : Option Nat
  deriving DecidableEq, Repr

/-- A character that ends an authority. -/
def endsAuthority (isWeb : Bool) (c : Char) : Bool :=
  c = '/' || c = '?' || c = '#' || (isWeb && c = '\\')

/-- The text in front of the last at sign, and the text behind it. -/
def splitUser (s : List Char) : Option (List Char × List Char) :=
  if s.contains '@' then
    let host := (s.reverse.takeWhile (· ≠ '@')).reverse
    some (s.take (s.length - host.length - 1), host)
  else none

/-- The length of the host at the head of a text: up to a colon outside brackets. -/
def hostLength (inBrackets : Bool) : List Char → Nat
  | [] => 0
  | c :: rest =>
    if c = ':' && !inBrackets then 0
    else hostLength (c = '[' || (inBrackets && c ≠ ']')) rest + 1

/-- The number that decimal digits spell, up to the largest number of a service. -/
def serviceNumber : List Char → Except Fault (Option Nat)
  | [] => .ok none
  | digits =>
    match (Text.parseDigits? digits).filter (· ≤ 65535) with
    | some n => .ok (some n)
    | none => .error .invalidServiceNumber

/-- The number of the service behind a host. -/
def serviceOf : List Char → Except Fault (Option Nat)
  | ':' :: rest => serviceNumber (rest.takeWhile (· ≠ '\\'))
  | _ => .ok none

/-- The user name and the password in front of a host. -/
def credentials (user : List Char) : List Char × List Char :=
  (Percent.encode Percent.userSet (user.takeWhile (· ≠ ':')),
    Percent.encode Percent.userSet (user.dropWhile (· ≠ ':')).tail)

/-- A user, if any, and the text of a host and its service. -/
def userAndHost (s : List Char) : List Char × List Char :=
  (splitUser s).getD ([], s)

/-- The authority of a web address, which has a host. -/
def parseWebAuthority (s : List Char) : Except Fault Authority :=
  let (user, hostText) := userAndHost s
  let length := hostLength false hostText
  if length = 0 then .error .emptyHost
  else
    match Host.parse (hostText.take length) with
    | .error fault => .error fault
    | .ok host =>
      match serviceOf (hostText.drop length) with
      | .error fault => .error fault
      | .ok service => .ok ⟨(credentials user).1, (credentials user).2, host, service⟩

/-- Checks the authority of an address outside the web, whose host may be empty if nothing else is
there. -/
def checkAuthority (s : List Char) : Except Fault Unit :=
  let hostText := (userAndHost s).2
  let length := hostLength false hostText
  match Host.parseOpaque (hostText.take length) with
  | .error fault => .error fault
  | .ok _ =>
    if length = 0 && !s.isEmpty then .error .emptyHost
    else (serviceOf (hostText.drop length)).map fun _ => ()

end QueryBridge.Url
