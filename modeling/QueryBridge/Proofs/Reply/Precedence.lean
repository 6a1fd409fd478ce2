import QueryBridge.Reply
import Mathlib.Data.List.Nodup

/-!
# Which text a reply delivers

A member of an object counts if it is the last one of its name and a string (`Carries`). What a
reply delivers is said by cases on what its body carries (`Reads`): a conversion that is not empty,
else the message of the service, else the empty conversion. `reads_read` shows that there is a case
for every body and `Reads.read_eq` that there is one only. Everything else follows from two facts:
reading looks members up by two names (`ofMembers_congr`), and the status is only quoted
(`read_atStatus`).
-/

set_option autoImplicit false

namespace QueryBridge

namespace Json

/-! ## Members of an object -/

section Members

variable {name : String} {value : Json} {members others : List (String × Json)}

/-- The member that a lookup finds is followed by none of its name. -/
theorem lastMember?_eq_some_iff :
    lastMember? name members = some value ↔
      ∃ before after, members = before ++ (name, value) :: after ∧
        ∀ member ∈ after, member.1 ≠ name := by
  rw [lastMember?, List.lookup_eq_some_iff]
  -- The lookup goes through the members backwards, so both parts of the split turn round.
  constructor
  · rintro ⟨after, before, hsplit, hafter⟩
    refine ⟨before.reverse, after.reverse, by simpa using congrArg List.reverse hsplit, ?_⟩
    intro member hmem
    exact (bne_iff_ne.1 (hafter member (List.mem_reverse.1 hmem))).symm
  · rintro ⟨before, after, rfl, hafter⟩
    refine ⟨after.reverse, before.reverse, by simp, fun member hmem => ?_⟩
    exact bne_iff_ne.2 (hafter member (List.mem_reverse.1 hmem)).symm

/-- Among members of different names, a lookup finds the one of that name. -/
theorem lastMember?_eq_some_iff_mem (h : (members.map Prod.fst).Nodup) :
    lastMember? name members = some value ↔ (name, value) ∈ members := by
  rw [lastMember?_eq_some_iff]
  constructor
  · rintro ⟨before, after, rfl, -⟩
    simp
  · intro hmem
    obtain ⟨before, after, rfl⟩ := List.append_of_mem hmem
    rw [List.map_append, List.map_cons] at h
    have hafter := (List.nodup_cons.1 h.of_append_right).1
    refine ⟨before, after, rfl, fun member hmem hname => ?_⟩
    exact hafter (List.mem_map.2 ⟨member, hmem, hname⟩)

/-- A lookup sees the members of its name only. -/
theorem lastMember?_filter :
    lastMember? name (members.filter (·.1 = name)) = lastMember? name members := by
  rw [lastMember?, lastMember?, ← List.filter_reverse]
  induction members.reverse with
  | nil => rfl
  | cons member rest ih =>
      obtain ⟨key, value⟩ := member
      by_cases hkey : key = name
      · simp [hkey]
      · simp [hkey, ih, List.lookup_cons, beq_false_of_ne (Ne.symm hkey)]

theorem lastMember?_congr (h : members.filter (·.1 = name) = others.filter (·.1 = name)) :
    lastMember? name members = lastMember? name others := by
  rw [← lastMember?_filter, h, lastMember?_filter]

/-- Members of different names may stand in any order. -/
theorem lastMember?_of_perm (hperm : members.Perm others) (hnodup : (members.map Prod.fst).Nodup) :
    lastMember? name members = lastMember? name others := by
  have hothers : (others.map Prod.fst).Nodup := (hperm.map Prod.fst).nodup_iff.1 hnodup
  refine Option.ext fun value => ?_
  rw [lastMember?_eq_some_iff_mem hnodup, lastMember?_eq_some_iff_mem hothers, hperm.mem_iff]

end Members

end Json

namespace TransportError

/-- The same error under another status. -/
def atStatus (status : Nat) : TransportError → TransportError
  | .timeout url => .timeout url
  | .unreachable url reason => .unreachable url reason
  | .malformedResponse _ detail => .malformedResponse status detail
  | .missingFields expected _ => .missingFields expected status

end TransportError

namespace Reply

/-! ## What a reply delivers -/

/-- The last member of that name is that string. -/
def Carries (members : List (String × Json)) (name text : String) : Prop :=
  ∃ before after, members = before ++ (name, .string text) :: after ∧
    ∀ member ∈ after, member.1 ≠ name

/-- What is read from a body, by cases on what it spells and carries. -/
inductive Reads (d : Direction) (status : Nat) (body : List Char) :
    Except TransportError String → Prop
  | notJson {fault : Json.Fault} (hparse : Json.parse body = .error fault) :
      Reads d status body (.error (.malformedResponse status (fault.message body)))
  | notObject {value : Json} (hparse : Json.parse body = .ok value)
      (hvalue : ∀ members, value ≠ .object members) :
      Reads d status body (.error (.malformedResponse status "expected a JSON object"))
  | converted {members : List (String × Json)} {text : String}
      (hparse : Json.parse body = .ok (.object members))
      (hconverted : Carries members d.responseField text) (hne : text ≠ "") :
      Reads d status body (.ok text)
  | message {members : List (String × Json)} {text : String}
      (hparse : Json.parse body = .ok (.object members))
      (hconverted : ∀ converted, Carries members d.responseField converted → converted = "")
      (hmessage : Carries members "error" text) :
      Reads d status body (.ok text)
  | blank {members : List (String × Json)} (hparse : Json.parse body = .ok (.object members))
      (hconverted : Carries members d.responseField "")
      (hmessage : ∀ text, ¬ Carries members "error" text) :
      Reads d status body (.ok "")
  | missing {members : List (String × Json)} (hparse : Json.parse body = .ok (.object members))
      (hconverted : ∀ text, ¬ Carries members d.responseField text)
      (hmessage : ∀ text, ¬ Carries members "error" text) :
      Reads d status body (.error (.missingFields d.responseField status))

section Reading

variable {d : Direction} {status other : Nat} {body : List Char} {name text : String}
  {members others : List (String × Json)} {result : Except TransportError String}

/-- A field has a text exactly where its last member carries it. -/
theorem stringField?_eq_some_iff :
    stringField? members name = some text ↔ Carries members name text := by
  rw [Carries, ← Json.lastMember?_eq_some_iff, stringField?]
  constructor
  · intro h
    obtain ⟨value, hvalue, htext⟩ := Option.bind_eq_some_iff.1 h
    cases value <;> simp_all [Json.text?]
  · intro h
    rw [h]
    rfl

theorem stringField?_eq_none_iff :
    stringField? members name = none ↔ ∀ text, ¬ Carries members name text := by
  simp [Option.eq_none_iff_forall_ne_some, stringField?_eq_some_iff]

theorem read_of_object (h : Json.parse body = .ok (.object members)) :
    read d status body = ofMembers d status members := by
  rw [read, h]

/-- What the members give is what the law for replies gives. -/
theorem reads_ofMembers (hparse : Json.parse body = .ok (.object members)) :
    Reads d status body (ofMembers d status members) := by
  have hnot {name : String} (h : stringField? members name = none) :=
    stringField?_eq_none_iff.1 h
  rw [ofMembers]
  -- The cases are those of `choose?`: the conversion absent, empty, or neither.
  cases hconverted : stringField? members d.responseField with
  | none =>
      cases hmessage : stringField? members errorField with
      | none => exact .missing hparse (hnot hconverted) (hnot hmessage)
      | some text =>
          refine .message hparse (fun converted h => ?_) (stringField?_eq_some_iff.1 hmessage)
          exact absurd h (hnot hconverted converted)
  | some text =>
      have hcarries := stringField?_eq_some_iff.1 hconverted
      by_cases hempty : text = ""
      · subst hempty
        cases hmessage : stringField? members errorField with
        | none => exact .blank hparse hcarries (hnot hmessage)
        | some message =>
            refine .message hparse (fun converted h => ?_) (stringField?_eq_some_iff.1 hmessage)
            rw [← stringField?_eq_some_iff, hconverted] at h
            exact (Option.some.inj h).symm
      · simpa [choose?, hempty] using Reads.converted hparse hcarries hempty

/-- Every body falls under a case. -/
theorem reads_read (d : Direction) (status : Nat) (body : List Char) :
    Reads d status body (read d status body) := by
  rw [read]
  split
  · exact .notJson ‹_›
  · exact reads_ofMembers ‹_›
  · rename_i value hvalue hparse
    exact .notObject hparse hvalue

/-- No body falls under two. -/
theorem Reads.read_eq (h : Reads d status body result) : read d status body = result := by
  cases h with
  | notJson hparse => rw [read, hparse]
  | @notObject value hparse hvalue =>
      rw [read, hparse]
      cases value <;> simp_all [notAnObject]
  | converted hparse hconverted hne =>
      rw [read_of_object hparse, ofMembers, stringField?_eq_some_iff.2 hconverted]
      simp [choose?, hne]
  | @message members text hparse hconverted hmessage =>
      rw [read_of_object hparse, ofMembers, errorField, stringField?_eq_some_iff.2 hmessage]
      cases hfield : stringField? members d.responseField with
      | none => rfl
      | some converted =>
          rw [hconverted converted (stringField?_eq_some_iff.1 hfield)]
          rfl
  | blank hparse hconverted hmessage =>
      rw [read_of_object hparse, ofMembers, errorField, stringField?_eq_some_iff.2 hconverted,
        stringField?_eq_none_iff.2 hmessage]
      rfl
  | missing hparse hconverted hmessage =>
      rw [read_of_object hparse, ofMembers, errorField, stringField?_eq_none_iff.2 hconverted,
        stringField?_eq_none_iff.2 hmessage]
      rfl

/-- What is read of a reply is what the law for replies gives, and nothing else. -/
theorem read_eq_iff : read d status body = result ↔ Reads d status body result :=
  ⟨fun h => h ▸ reads_read d status body, Reads.read_eq⟩

/-! ## What the reading depends on -/

/-- Reading looks members up by two names. -/
theorem ofMembers_congr
    (hconverted : Json.lastMember? d.responseField members =
      Json.lastMember? d.responseField others)
    (hmessage : Json.lastMember? errorField members = Json.lastMember? errorField others) :
    ofMembers d status members = ofMembers d status others := by
  simp only [ofMembers, stringField?, hconverted, hmessage]

/-- The status is only quoted. -/
theorem read_atStatus :
    read d other body = (read d status body).mapError (TransportError.atStatus other) := by
  rw [read_eq_iff]
  generalize hresult : read d status body = result
  cases read_eq_iff.1 hresult with
  | notJson hparse => exact .notJson hparse
  | notObject hparse hvalue => exact .notObject hparse hvalue
  -- No other case knows the status, but the one that names the missing field.
  | converted hparse hconverted hne => exact .converted hparse hconverted hne
  | message hparse hconverted hmessage => exact .message hparse hconverted hmessage
  | blank hparse hconverted hmessage => exact .blank hparse hconverted hmessage
  | missing hparse hconverted hmessage => exact .missing hparse hconverted hmessage

/-- What spells an object is not malformed. -/
theorem read_eq_malformed_iff :
    (∃ detail, read d status body = .error (.malformedResponse status detail)) ↔
      ∀ members, Json.parse body ≠ .ok (.object members) := by
  constructor
  · rintro ⟨detail, hread⟩ members hobject
    cases read_eq_iff.1 hread with
    | notJson hparse => simp [hparse] at hobject
    | notObject hparse hvalue =>
        rw [hparse] at hobject
        exact hvalue members (Except.ok.inj hobject)
  · intro hno
    cases hparse : Json.parse body with
    | error fault => exact ⟨_, (Reads.notJson hparse).read_eq⟩
    | ok value =>
        have hvalue : ∀ members, value ≠ .object members :=
          fun members h => hno members (h ▸ hparse)
        exact ⟨_, (Reads.notObject hparse hvalue).read_eq⟩

/-- Members of other names carry nothing under this one. -/
theorem not_carries (h : ∀ member ∈ members, member.1 ≠ name) : ¬ Carries members name text := by
  rintro ⟨before, after, rfl, -⟩
  exact h (name, .string text) (by simp) rfl

/-- The field of the other direction is neither that of this one nor that of errors. -/
theorem toggled_responseField_ne (d : Direction) :
    d.toggled.responseField ≠ d.responseField ∧ d.toggled.responseField ≠ "error" := by
  cases d <;> decide

/-- A body delivers a text if and only if one of the two fields counts. -/
theorem delivers_iff :
    (∃ text, Reads d status body (.ok text)) ↔
      ∃ members text, Json.parse body = .ok (.object members) ∧
        (Carries members d.responseField text ∨ Carries members "error" text) := by
  constructor
  · rintro ⟨text, hreads⟩
    cases hreads with
    | converted hparse hconverted hne => exact ⟨_, _, hparse, .inl hconverted⟩
    | message hparse hconverted hmessage => exact ⟨_, _, hparse, .inr hmessage⟩
    | blank hparse hconverted hmessage => exact ⟨_, _, hparse, .inl hconverted⟩
  · rintro ⟨members, text, hobject, hcarries⟩
    cases hread : read d status body with
    | ok found => exact ⟨found, read_eq_iff.1 hread⟩
    | error error =>
        -- Each error says that the body is no object or that neither field counts.
        exfalso
        cases read_eq_iff.1 hread with
        | notJson hparse => simp [hparse] at hobject
        | notObject hparse hvalue =>
            rw [hparse] at hobject
            exact hvalue members (Except.ok.inj hobject)
        | missing hparse hconverted hmessage =>
            rw [hparse] at hobject
            cases hobject
            exact hcarries.elim (hconverted text) (hmessage text)

end Reading

/-! ## The law of precedence -/

/-- What the reading of a body is, what it depends on, and the outcome it makes. -/
structure Precedence (d : Direction) (status : Nat) (body : List Char) : Prop where
  /-- The reading is that of the case under which the body falls. -/
  reading : ∀ result, read d status body = result ↔ Reads d status body result
  /-- Malformed is what spells no object, and nothing else. -/
  malformed : (∃ detail, read d status body = .error (.malformedResponse status detail)) ↔
    ∀ members, Json.parse body ≠ .ok (.object members)
  /-- Only members of two names matter, wherever they stand among the others. -/
  twoFields : ∀ members other others, Json.parse body = .ok (.object members) →
    Json.parse other = .ok (.object others) →
    (∀ name ∈ [d.responseField, "error"],
      members.filter (·.1 = name) = others.filter (·.1 = name)) →
    read d status other = read d status body
  /-- Members of different names may stand in any order. -/
  anyOrder : ∀ members other others, Json.parse body = .ok (.object members) →
    Json.parse other = .ok (.object others) → members.Perm others →
    (members.map Prod.fst).Nodup → read d status other = read d status body
  /-- The status is quoted in the two errors, and matters to nothing else. -/
  quoted : ∀ other, read d other body =
    (read d status body).mapError (TransportError.atStatus other)
  /-- The field of the other direction is none. -/
  reversed : ∀ members, Json.parse body = .ok (.object members) →
    (∀ member ∈ members, member.1 = d.toggled.responseField) →
    read d status body = .error (.missingFields d.responseField status)
  /-- A text that is delivered is a success with that text. -/
  success : ∀ text, Outcome.ofReply (read d status body) = .success text ↔
    read d status body = .ok text
  /-- An error is a failure that says so. -/
  failure : ∀ error, read d status body = .error error →
    Outcome.ofReply (read d status body) = .failure ("Error: " ++ error.message)
  /-- A failure is where neither field counts. -/
  isFailure : (Outcome.ofReply (read d status body)).isFailure = true ↔
    ¬ ∃ members text, Json.parse body = .ok (.object members) ∧
      (Carries members d.responseField text ∨ Carries members "error" text)

/-- A reading is a success if and only if it is a text. -/
theorem ofReply_eq_success_iff {reading : Except TransportError String} {text : String} :
    Outcome.ofReply reading = .success text ↔ reading = .ok text := by
  cases reading with
  | error error => simp [Outcome.ofReply, TransportError.outcome]
  | ok found => simp [Outcome.ofReply]

/-- An outcome is a failure exactly where no text was read. -/
theorem isFailure_ofReply_iff {reading : Except TransportError String} :
    (Outcome.ofReply reading).isFailure = true ↔ ¬ ∃ text, reading = .ok text := by
  cases reading with
  | error error => simp [Outcome.ofReply, TransportError.outcome, Outcome.isFailure]
  | ok found => simp [Outcome.ofReply, Outcome.isFailure]

/-- Every reply is read by the law of precedence: what is no JSON object is malformed, a conversion
that is not empty wins over the message of the service, the message wins over the empty conversion,
and where neither is a string the field of the direction is reported as missing. -/
theorem read_precedence (d : Direction) (status : Nat) (body : List Char) :
    Precedence d status body where
  reading := fun _ => read_eq_iff
  malformed := read_eq_malformed_iff
  twoFields := fun members other others hbody hother hsame => by
    rw [read_of_object hbody, read_of_object hother]
    have hlast (name : String) (h : name ∈ [d.responseField, "error"]) :=
      (Json.lastMember?_congr (hsame name h)).symm
    exact ofMembers_congr (hlast _ (by simp)) (hlast _ (by simp [errorField]))
  anyOrder := fun members other others hbody hother hperm hnodup => by
    rw [read_of_object hbody, read_of_object hother]
    -- With one member of each name, being the last one is being among them.
    have hlast (name : String) : Json.lastMember? name others = Json.lastMember? name members :=
      (Json.lastMember?_of_perm hperm hnodup).symm
    exact ofMembers_congr (hlast _) (hlast _)
  quoted := fun _ => read_atStatus
  reversed := fun members hbody hother => by
    have hno := toggled_responseField_ne d
    refine Reads.read_eq (.missing hbody (fun text => ?_) fun text => ?_)
    · exact not_carries fun member hmem => hother member hmem ▸ hno.1
    · exact not_carries fun member hmem => hother member hmem ▸ hno.2
  success := fun _ => ofReply_eq_success_iff
  failure := fun error hread => by rw [hread]; rfl
  isFailure := by
    rw [isFailure_ofReply_iff, ← @delivers_iff d status body]
    simp only [read_eq_iff]

/-- The message wins over the empty conversion, and the field of the other direction is none. -/
example : read .sqlToMongo 400
    "\x7b\"sql\":\"a\",\"error\":\"no\",\"mongo_command\":\"\"\x7d".toList = .ok "no" := by
  rfl

end Reply

end QueryBridge
