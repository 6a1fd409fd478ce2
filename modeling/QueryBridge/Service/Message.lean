import QueryBridge.Service.Exchange
import QueryBridge.Text.Base64

/-!
# Messages on the wire

A request and a reply are each a head, which is lines of text, and a body of octets. A
request announces the length of its body. The body of a reply has an announced length,
or comes in chunks that announce theirs, or ends with the connection.

A reply is read from the octets that have arrived so far: `Message.observed` says what
the service did, or that it is too early to say.
-/

set_option autoImplicit false

namespace QueryBridge.Service.Message

/-! ## Writing a request -/

/-- The end of a line. -/
def lineEnd : List Char := ['\r', '\n']

/-- A field of a head. -/
def field (name : String) (value : List Char) : List Char :=
  name.toList ++ ": ".toList ++ value ++ lineEnd

/-- The host of a request, with the service if the scheme does not ask for it anyway. -/
def hostText (authority : Url.Authority) : List Char :=
  authority.host.write ++ authority.service.elim [] (fun n => ':' :: Text.decimal n)

/-- The field that names the user, if there is one. -/
def userField (authority : Url.Authority) : List Char :=
  if authority.username.isEmpty && authority.password.isEmpty then []
  else
    field "authorization" ("Basic ".toList ++ Text.base64 (Text.Utf8.encode
      (Url.Percent.decode authority.username ++ ':' :: Url.Percent.decode authority.password)))

/-- The octets of a request. Its connection is used for nothing else. -/
def octets (authority : Url.Authority) (delivery : Delivery) : List UInt8 :=
  let body := Text.Utf8.encode delivery.body.toList
  Text.Utf8.encode
    ((Delivery.method ++ " " ++ delivery.target ++ " HTTP/1.1").toList ++ lineEnd ++
      field "host" (hostText authority) ++
      field "content-type" Delivery.mediaType.toList ++
      userField authority ++
      field "accept" "*/*".toList ++
      field "content-length" (Text.decimal body.length) ++
      field "connection" "close".toList ++ lineEnd) ++ body

/-! ## Reading a reply -/

/-- What can be said of the octets that have arrived so far. -/
inductive Progress (α : Type) where
  | done (value : α)
  /-- More octets are needed. -/
  | early
  /-- No octets behind these make a reply. -/
  | wrong
  deriving DecidableEq, Repr

/-- The characters with the same numbers as octets, which is how heads are read. -/
def plainChars (octets : List UInt8) : List Char :=
  octets.map fun b => Char.ofNat b.toNat

/-- The first line, without its end, and what stands behind it. -/
def line? (octets : List UInt8) : Option (List Char × List UInt8) :=
  match octets.dropWhile (· ≠ 0x0A) with
  | [] => none
  | _ :: rest =>
    let line := plainChars (octets.takeWhile (· ≠ 0x0A))
    some (if line.getLast? = some '\r' then line.dropLast else line, rest)

/-- A line takes octets away. -/
theorem length_of_line? {octets rest : List UInt8} {line : List Char}
    (h : line? octets = some (line, rest)) : rest.length < octets.length := by
  unfold line? at h
  split at h
  · simp at h
  · next b tail found =>
    have fewer := (List.dropWhile_sublist (fun b : UInt8 => decide (b ≠ 0x0A))
      (l := octets)).length_le
    rw [found] at fewer
    simp only [Option.some.injEq, Prod.mk.injEq] at h
    rw [← h.2]
    exact fewer

/-- Lines up to an empty one, as many as a limit allows, and what stands behind them. -/
def block : Nat → List UInt8 → Progress (List (List Char) × List UInt8)
  | limit, octets =>
    match line? octets with
    | none => .early
    | some ([], rest) => .done ([], rest)
    | some (line, rest) =>
      match limit with
      | 0 => .wrong
      | n + 1 =>
        match block n rest with
        | .done (lines, behind) => .done (line :: lines, behind)
        | .early => .early
        | .wrong => .wrong

/-- The largest number of lines of a head. -/
def maxLines : Nat := 101

/-- The head of a reply. The names of its fields are in lower case. -/
structure Head where
  status : Nat
  fields : List (List Char × List Char)
  deriving DecidableEq, Repr

/-- The status on the first line of a head. -/
def status? (line : List Char) : Option Nat :=
  if ["HTTP/1.0 ", "HTTP/1.1 "].any (·.toList.isPrefixOf line) then
    let code := (line.drop 9).takeWhile (· ≠ ' ')
    if code.length = 3 then Text.parseDigits? code else none
  else none

/-- The name and the value on a line of a head. -/
def field? (line : List Char) : Option (List Char × List Char) :=
  match line.dropWhile (· ≠ ':') with
  | [] => none
  | _ :: value =>
    let name := line.takeWhile (· ≠ ':')
    if name.isEmpty || name.any Text.isSpace then none
    else some (name.map Char.toLower, Text.trim value)

/-- The head that lines spell. -/
def Head.ofLines? : List (List Char) → Option Head
  | [] => none
  | first :: rest => (status? first).bind fun status => (rest.mapM field?).map (⟨status, ·⟩)

/-- The values of the fields of a name, the first one first. -/
def Head.values (head : Head) (name : String) : List (List Char) :=
  (head.fields.filter (·.1 = name.toList)).map (·.2)

/-- How the end of a body is found. -/
inductive Framing where
  | length (n : Nat)
  | chunks
  /-- The body ends with the connection. -/
  | untilEnd
  deriving DecidableEq, Repr

/-- Whether the last transfer coding of a body is the one in chunks. -/
def isChunked (codings : List (List Char)) : Bool :=
  (codings.flatMap (Text.splitAll (· = ','))).getLast?.any fun coding =>
    (Text.trim coding).map Char.toLower = "chunked".toList

/-- How the end of the body behind a head is found. Announced lengths must agree. -/
def Head.framing? (head : Head) : Option Framing :=
  if head.status = 204 || head.status = 304 then some (.length 0)
  else if !(head.values "transfer-encoding").isEmpty then
    some (if isChunked (head.values "transfer-encoding") then .chunks else .untilEnd)
  else
    match head.values "content-length" with
    | [] => some .untilEnd
    | first :: rest => if rest.all (· = first) then (Text.parseDigits? first).map .length else none

/-- A body as far as it has arrived. -/
structure Body where
  octets : List UInt8
  /-- The least number of octets that are still to come. -/
  missing : Nat
  deriving DecidableEq, Repr

/-- The length of a chunk on the line in front of it; what stands behind a semicolon counts for
nothing. -/
def chunkLength? (line : List Char) : Option Nat :=
  let digits := Text.trim (line.takeWhile (· ≠ ';'))
  if digits.isEmpty then none else Text.hexValue? 0 digits

/-- The body behind the last chunk: nothing, but for fields up to an empty line. -/
def lastFields (octets : List UInt8) : Option Body :=
  match block maxLines octets with
  | .done _ => some ⟨[], 0⟩
  | .early => some ⟨[], 1⟩
  | .wrong => none

/-- The body in chunks. The chunk of length zero is the last one. -/
def chunked? (octets : List UInt8) : Option Body :=
  match _found : line? octets with
  | none => some ⟨[], 1⟩
  | some (line, rest) =>
    match chunkLength? line with
    | none => none
    | some 0 => lastFields rest
    | some n =>
      match _behind : rest.drop n with
      | 0x0D :: 0x0A :: more =>
        (chunked? more).map fun body => { body with octets := rest.take n ++ body.octets }
      | [] | [0x0D] => some ⟨rest.take n, n + 2 - rest.length⟩
      | _ => none
termination_by octets.length
decreasing_by
  have shorter := length_of_line? _found
  have counted := congrArg List.length _behind
  simp only [List.length_drop, List.length_cons] at counted
  omega

/-- The body that octets behind a head make, or nothing where they are no body. -/
def Framing.body? (ended : Bool) (octets : List UInt8) : Framing → Option Body
  | .length n => some ⟨octets.take n, n - octets.length⟩
  | .chunks => chunked? octets
  | .untilEnd => some ⟨octets, if ended then 0 else 1⟩

/-- What the service did when a reply began with a head. -/
def replied (head : Head) (ended : Bool) (octets : List UInt8) : Option Behaviour :=
  match head.framing? with
  | none => some .close
  | some framing =>
    let mediaType := (head.values "content-type").head?.map String.ofList
    match framing.body? ended octets with
    | none =>
      some (.reply { status := head.status, mediaType := mediaType, body := [], missing := 1 })
    | some body =>
      if body.missing = 0 || ended then
        some (.reply { status := head.status, mediaType := mediaType, body := body.octets,
                       missing := body.missing })
      else none

/-- A head that only tells that the reply is on its way. -/
def Head.isInterim (head : Head) : Bool :=
  head.status < 200

/-- What the service did, going by the octets that have arrived so far; nothing while it is too
early to say. At most so many heads may come before the reply. -/
def observedBehind : Nat → Bool → List UInt8 → Option Behaviour
  | limit, ended, octets =>
    match block maxLines octets with
    | .early => if ended then some .close else none
    | .wrong => some .close
    | .done (lines, rest) =>
      match Head.ofLines? lines with
      | none => some .close
      | some head =>
        if head.isInterim then
          match limit with
          | 0 => some .close
          | n + 1 => observedBehind n ended rest
        else replied head ended rest

/-- The largest number of interim heads. -/
def maxInterim : Nat := 16

/-- What the service did, going by the octets that have arrived so far and whether more can come;
nothing while it is too early to say. -/
def observed (ended : Bool) (octets : List UInt8) : Option Behaviour :=
  observedBehind maxInterim ended octets

end QueryBridge.Service.Message
