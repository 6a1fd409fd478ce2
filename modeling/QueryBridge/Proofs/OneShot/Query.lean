import QueryBridge.QueryInput
import QueryBridge.Proofs.Text.WellFormed

/-!
# Queries are taken as they are

Of a source one octet more is read than a query may have. That settles how long the source is
(`maxOctets_lt_length_portion`), and of a source that is not too long it is all (`portion_of_le`).
So what becomes of octets can be said without the portion that was read (`ofOctets_eq`): too many
octets are refused unseen, a text comes out exactly where the octets are its UTF-8, and other octets
are refused with the length of their longest well-formed beginning. The main result is
`query_taken_as_it_is`.
-/

set_option autoImplicit false

namespace QueryBridge.QueryInput

open QueryBridge.Files QueryBridge.Text

section Octets

variable {octets : List UInt8}

/-- Every source that is too long shows it by its portion, and no other does. -/
theorem maxOctets_lt_length_portion :
    maxOctets < (portion octets).length ↔ maxOctets < octets.length := by
  rw [portion, List.length_take]
  omega

/-- What is not too long is read to its end. -/
theorem portion_of_le (h : octets.length ≤ maxOctets) : portion octets = octets :=
  List.take_of_length_le (Nat.le_succ_of_le h)

/-- What becomes of octets, said of all of them. -/
theorem ofOctets_eq (origin : String) (octets : List UInt8) :
    ofOctets origin octets =
      if maxOctets < octets.length then .error ⟨tooLong origin, []⟩
      else
        match Utf8.decode octets with
        | .ok text => .ok (String.ofList text)
        | .error fault => .error (notUtf8 origin fault) := by
  rw [ofOctets]
  simp only [maxOctets_lt_length_portion]
  split
  · rfl
  · rename_i hshort
    have hwhole : portion octets = octets := portion_of_le (Nat.le_of_not_lt hshort)
    cases hdecode : Utf8.decode octets <;> simp only [hwhole, hdecode]

/-- Octets that are too many are refused, whatever they are. -/
theorem ofOctets_of_long (origin : String) (h : maxOctets < octets.length) :
    ofOctets origin octets = .error ⟨tooLong origin, []⟩ := by
  rw [ofOctets_eq, if_pos h]

/-- The UTF-8 of a text, if it is not too long, gives back the text. -/
theorem ofOctets_of_encode (origin : String) {s : List Char}
    (h : (Utf8.encode s).length ≤ maxOctets) :
    ofOctets origin (Utf8.encode s) = .ok (String.ofList s) := by
  rw [ofOctets_eq, if_neg (Nat.not_lt.2 h), Utf8.decode_encode]

/-- Octets with a fault are refused with the place of it, if they are not too many. -/
theorem ofOctets_of_fault (origin : String) (h : octets.length ≤ maxOctets) {fault : Utf8.Fault}
    (hfault : Utf8.decode octets = .error fault) :
    ofOctets origin octets = .error (notUtf8 origin fault) := by
  rw [ofOctets_eq, if_neg (Nat.not_lt.2 h), hfault]

/-- A text is taken from its own UTF-8 and from nothing else. -/
theorem ofOctets_eq_ok_iff {origin text : String} :
    ofOctets origin octets = .ok text ↔
      octets.length ≤ maxOctets ∧ octets = Utf8.encode text.toList := by
  constructor
  · intro h
    by_cases hlong : maxOctets < octets.length
    · rw [ofOctets_of_long origin hlong] at h
      cases h
    · have hshort := Nat.le_of_not_lt hlong
      cases hdecode : Utf8.decode octets with
      | error fault =>
          rw [ofOctets_of_fault origin hshort hdecode] at h
          cases h
      | ok s =>
          obtain rfl := Utf8.decode_eq_ok_iff.1 hdecode
          rw [ofOctets_of_encode origin hshort] at h
          cases h
          rw [String.toList_ofList]
          exact ⟨hshort, rfl⟩
  · rintro ⟨hshort, rfl⟩
    rw [ofOctets_of_encode origin hshort, String.ofList_toList]

end Octets

/-- What a result says of the octets of a source. -/
structure Taken (origin : String) (octets : List UInt8) (result : Fallible String) : Prop where
  /-- A text comes out where the octets are few enough and are its UTF-8, and only there. -/
  unaltered : ∀ text, result = .ok text ↔
    octets.length ≤ 1048576 ∧ text.toUTF8 = octets.toByteArray
  /-- Some text comes out of all octets that are few enough and well-formed. -/
  accepted : (∃ text, result = .ok text) ↔ octets.length ≤ 1048576 ∧ Utf8.WellFormed octets
  /-- Too many octets are refused as too many, well-formed or not. -/
  tooLong : 1048576 < octets.length → result = .error ⟨QueryInput.tooLong origin, []⟩
  /-- Few enough octets that are not well-formed are refused with the place of their first fault,
  which is the length of the longest well-formed beginning. -/
  illFormed : octets.length ≤ 1048576 → ¬ Utf8.WellFormed octets →
    ∃ fault, result = .error (notUtf8 origin fault) ∧
      IsGreatest {n | n ≤ octets.length ∧ Utf8.WellFormed (octets.take n)} fault.index

theorem taken_ofOctets (origin : String) (octets : List UInt8) :
    Taken origin octets (ofOctets origin octets) where
  unaltered := fun text => by
    have hoctets : (String.ofList text.toList).toByteArray = octets.toByteArray ↔
        octets = Utf8.encode text.toList := Utf8.toByteArray_ofList_eq_iff
    rw [String.ofList_toList] at hoctets
    rw [String.toUTF8_eq_toByteArray, hoctets]
    exact ofOctets_eq_ok_iff
  accepted := by
    rw [Utf8.wellFormed_iff]
    constructor
    · rintro ⟨text, htext⟩
      obtain ⟨hshort, hoctets⟩ := ofOctets_eq_ok_iff.1 htext
      exact ⟨hshort, text.toList, hoctets⟩
    · rintro ⟨hshort, s, rfl⟩
      exact ⟨String.ofList s, ofOctets_of_encode origin hshort⟩
  tooLong := ofOctets_of_long origin
  illFormed := fun hshort hill => by
    cases hdecode : Utf8.decode octets with
    | ok s => exact absurd (Utf8.wellFormed_iff_decode.2 ⟨s, hdecode⟩) hill
    | error fault =>
        exact ⟨fault, ofOctets_of_fault origin hshort hdecode, Utf8.isGreatest_index hdecode⟩

/-- Where the octets of a query come from, and the name of that source in messages. -/
inductive Source (tree : Tree) (standardInput : List UInt8) :
    Option Path → String → List UInt8 → Prop
  | standard : Source tree standardInput none "stdin" standardInput
  | dash {path : Path} (hdash : path.isDash = true) :
      Source tree standardInput (some path) "stdin" standardInput
  | file {path : Path} {octets : List UInt8} (hdash : path.isDash = false)
      (hfile : tree.find path = .ok (.file octets)) :
      Source tree standardInput (some path) path.toString octets

/-- Whatever octets a file or standard input has, they are the query if they are at most one
mebibyte of well-formed UTF-8, and then the UTF-8 of the query is just these octets. More octets are
refused for their number, whatever they are. All others are refused with the length of their longest
well-formed beginning. -/
theorem query_taken_as_it_is :
    (∀ origin octets, Taken origin octets (ofOctets origin octets)) ∧
      ∀ tree standardInput file origin octets, Source tree standardInput file origin octets →
        Taken origin octets (read tree standardInput file) := by
  refine ⟨taken_ofOctets, ?_⟩
  intro tree standardInput file origin octets hsource
  cases hsource with
  | standard => exact taken_ofOctets _ _
  | dash hdash =>
      rw [read, if_pos hdash]
      exact taken_ofOctets _ _
  | file hdash hfile =>
      rw [read, if_neg (by simp [hdash]), ofFile, hfile]
      exact taken_ofOctets _ _

end QueryBridge.QueryInput
