import Mathlib.Order.Bounds.Basic
import QueryBridge.Proofs.Text.Octets

/-!
# The first fault of octets that are not UTF-8

Octets are well-formed if they are the UTF-8 of some text. The decoder fails where it meets a first
octet that begins no character (`exists_front_of_decode`). What stands in front of that place is
well-formed. Nothing longer is: a well-formed beginning can be read character by character, so it
ends in front of the place at the latest (`length_encode_le`). The index of a fault is therefore the
length of the longest well-formed beginning (`isGreatest_index`).
-/

set_option autoImplicit false

namespace QueryBridge.Text.Utf8

/-- Octets that are the UTF-8 of a text. -/
def WellFormed (octets : List UInt8) : Prop :=
  octets.toByteArray.IsValidUTF8

/-- Where a fault is. -/
def Fault.index : Fault → Nat
  | .invalid _ index => index
  | .incomplete index => index

section WellFormed

variable {octets : List UInt8} {s t : List Char}

theorem toByteArray_ofList_eq_iff :
    (String.ofList s).toByteArray = octets.toByteArray ↔ octets = encode s := by
  rw [String.toByteArray_ofList, List.utf8Encode, List.toByteArray_inj]
  exact eq_comm

/-- Octets are well-formed exactly where they are the UTF-8 of some text. -/
theorem wellFormed_iff : WellFormed octets ↔ ∃ s, octets = encode s := by
  constructor
  · rintro ⟨s, hs⟩
    exact ⟨s, List.toByteArray_inj.1 hs⟩
  · rintro ⟨s, rfl⟩
    exact ⟨s, rfl⟩

/-- Octets are well-formed exactly where they can be read. -/
theorem wellFormed_iff_decode : WellFormed octets ↔ ∃ s, decode octets = .ok s := by
  simp only [wellFormed_iff, decode_eq_ok_iff]

theorem encode_cons (c : Char) (s : List Char) :
    encode (c :: s) = String.utf8EncodeChar c ++ encode s := rfl

/-! ## Beginnings of octets -/

/-- No character begins with these octets. -/
def Stuck (octets : List UInt8) : Prop :=
  ∃ a rest, octets = a :: rest ∧ ∀ c width, lead a rest ≠ .char c width

/-- The decoder fails behind a well-formed beginning, where no character begins. -/
theorem exists_front_of_decodeFrom {fault : Fault} :
    ∀ {index : Nat} {read : List Char}, decodeFrom index 0 read octets = .error fault →
      ∃ s tail, octets = encode s ++ tail ∧ Stuck tail ∧
        fault.index = index + (encode s).length := by
  -- The induction is on the number of octets, since a character takes several of them at once.
  induction hlength : octets.length using Nat.strongRecOn generalizing octets with
  | ind n ih =>
    intro index read h
    subst hlength
    cases octets with
    | nil => cases h
    | cons a rest =>
        rw [decodeFrom] at h
        cases hlead : lead a rest with
        | char c width =>
            rw [hlead] at h
            obtain ⟨others, tail, rfl, rfl, hencode⟩ := octets_of_lead hlead
            dsimp only at h
            rw [Nat.add_sub_cancel, decodeFrom_skip] at h
            have hshorter : tail.length < (a :: (others ++ tail)).length := by
              simp only [List.length_cons, List.length_append]
              omega
            obtain ⟨s, stuck, rfl, hstuck, hindex⟩ := ih _ hshorter rfl h
            refine ⟨c :: s, stuck, ?_, hstuck, ?_⟩
            · rw [encode_cons, hencode, List.append_assoc, List.cons_append]
            · rw [hindex, encode_cons, hencode, List.length_append, List.length_cons]
              omega
        | broken length =>
            rw [hlead] at h
            cases h
            exact ⟨[], a :: rest, rfl, ⟨a, rest, rfl, by simp [hlead]⟩, rfl⟩
        | cut =>
            rw [hlead] at h
            cases h
            exact ⟨[], a :: rest, rfl, ⟨a, rest, rfl, by simp [hlead]⟩, rfl⟩

/-- Nothing well-formed that is not empty begins where no character begins. -/
theorem eq_nil_of_prefix_of_stuck {tail : List UInt8} (hstuck : Stuck tail)
    (h : encode t <+: tail) : t = [] := by
  obtain ⟨a, rest, rfl, hnone⟩ := hstuck
  cases t with
  | nil => rfl
  | cons c t =>
      obtain ⟨first, others, hoctets, hlead⟩ := exists_octets c
      obtain ⟨more, hmore⟩ := h
      rw [encode_cons, hoctets, List.append_assoc, List.cons_append, List.cons.injEq] at hmore
      obtain ⟨rfl, rfl⟩ := hmore
      exact absurd (hlead _) (hnone c _)

/-- A well-formed beginning reaches no further than to the place where no character begins. -/
theorem length_encode_le {tail : List UInt8} (hstuck : Stuck tail)
    (h : encode t <+: encode s ++ tail) : (encode t).length ≤ (encode s).length := by
  induction s generalizing t with
  | nil =>
      rw [eq_nil_of_prefix_of_stuck hstuck h]
  | cons c s ih =>
      cases t with
      | nil => exact Nat.zero_le _
      | cons d t =>
          obtain ⟨first, others, hoctets, hlead⟩ := exists_octets c
          obtain ⟨first', others', hoctets', hlead'⟩ := exists_octets d
          obtain ⟨more, hmore⟩ := h
          rw [encode_cons, encode_cons, hoctets, hoctets'] at hmore
          simp only [List.cons_append, List.append_assoc, List.cons.injEq] at hmore
          obtain ⟨rfl, hmore⟩ := hmore
          -- The same octets are read as one character only.
          have hsame : Lead.char d (others'.length + 1) = Lead.char c (others.length + 1) := by
            rw [← hlead, ← hlead', hmore]
          obtain ⟨rfl, -⟩ := Lead.char.inj hsame
          obtain ⟨-, rfl⟩ := List.cons.inj (hoctets'.symm.trans hoctets)
          have hrest := ih ⟨more, List.append_cancel_left hmore⟩
          rw [encode_cons, encode_cons, List.length_append, List.length_append]
          omega

/-- The index of a fault is the length of the longest well-formed beginning. -/
theorem isGreatest_index {fault : Fault} (h : decode octets = .error fault) :
    IsGreatest {n | n ≤ octets.length ∧ WellFormed (octets.take n)} fault.index := by
  obtain ⟨s, tail, rfl, hstuck, hindex⟩ := exists_front_of_decodeFrom h
  rw [Nat.zero_add] at hindex
  rw [hindex]
  constructor
  · refine ⟨by simp, wellFormed_iff.2 ⟨s, ?_⟩⟩
    exact List.take_left
  · rintro n ⟨hn, hwellFormed⟩
    obtain ⟨t, ht⟩ := wellFormed_iff.1 hwellFormed
    have hfront : encode t <+: encode s ++ tail := ht ▸ List.take_prefix n _
    have hlength : (encode t).length = n := by
      rw [← ht, List.length_take, Nat.min_eq_left hn]
    rw [← hlength]
    exact length_encode_le hstuck hfront

-- A surrogate behind one character: the fault is its first octet.
example : decode [0x61, 0xED, 0xA0, 0x80] = .error (.invalid 1 1) := by decide

end WellFormed

end QueryBridge.Text.Utf8
