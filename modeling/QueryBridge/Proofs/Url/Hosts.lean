import QueryBridge.Proofs.Unicode.Normal
import QueryBridge.Proofs.Text.Octets
import QueryBridge.Proofs.Text.Spelling
import QueryBridge.Url.Parse

/-!
# No host has a space or a control character

Every stage that the text of a host goes through hands such a character on: percent decoding
(`Percent.mem_decode`), the mapping of domain names (`Domain.mem_mapText?`), normal form
(`Unicode.Normal.mem_normalize`) and Punycode (`Punycode.mem_encode`). What comes out in the end is
forbidden to hold one, so there is no such host (`Host.parse_eq_error`). The number of the service
behind a host is none either if such a character is its last, and so an authority does not end with
one (`parseWebAuthority_eq_error`).
-/

set_option autoImplicit false

namespace QueryBridge.Url

open QueryBridge.Text (splitAll splitFrom)

variable {c : Char}

theorem toNat_le_of_isEdge (h : isEdge c = true) : c.toNat ≤ 0x20 :=
  of_decide_eq_true h

theorem ne_of_isEdge {d : Char} (h : isEdge c = true) (hd : 0x20 < d.toNat) : c ≠ d := by
  rintro rfl
  exact absurd (toNat_le_of_isEdge h) (Nat.not_le_of_lt hd)

/-! ## Percent decoding -/

namespace Percent

/-- Control characters and the blank are no digits of an escape. -/
theorem octet?_eq_none {a b : UInt8} (h : a.toNat ≤ 0x20 ∨ b.toNat ≤ 0x20) : octet? a b = none := by
  have hdigit : ∀ n, n ≤ 0x20 → Text.hexDigit? (Char.ofNat n) = none := by decide
  rw [octet?]
  rcases h with ha | hb
  · rw [hdigit _ ha]
    rfl
  · rw [hdigit _ hb]
    cases Text.hexDigit? (Char.ofNat a.toNat) <;> rfl

theorem mem_decodeOctets {o : UInt8} (ho : o.toNat ≤ 0x20) {octets : List UInt8} (h : o ∈ octets) :
    o ∈ decodeOctets octets := by
  fun_induction decodeOctets octets with
  | case1 a b rest octet hoctet ih =>
      -- A percent sign and two digits are read as one octet, and none of the three is the one in
      -- question.
      have hne : o ≠ 0x25 ∧ o ≠ a ∧ o ≠ b := by
        refine ⟨?_, ?_, ?_⟩
        · rintro rfl
          exact absurd ho (by decide)
        · rintro rfl
          rw [octet?_eq_none (.inl ho)] at hoctet
          cases hoctet
        · rintro rfl
          rw [octet?_eq_none (.inr ho)] at hoctet
          cases hoctet
      simp only [List.mem_cons, hne.1, hne.2.1, hne.2.2, false_or] at h
      exact List.mem_cons_of_mem octet (ih h)
  | case2 a b rest hoctet ih =>
      rcases List.mem_cons.1 h with rfl | hrest
      · exact List.mem_cons_self
      · exact List.mem_cons_of_mem _ (ih hrest)
  | case3 a rest _ ih =>
      rcases List.mem_cons.1 h with rfl | hrest
      · exact List.mem_cons_self
      · exact List.mem_cons_of_mem _ (ih hrest)
  | case4 => cases h

theorem mem_decode (h : isEdge c = true) {s : List Char} (hin : c ∈ s) : c ∈ decode s := by
  have hc := toNat_le_of_isEdge h
  have hsize : (UInt8.ofNat c.toNat).toNat = c.toNat := Text.Utf8.toNat_octet (by omega)
  rw [decode]
  split
  · -- A character of ASCII is one octet, and this octet is read as the character again.
    have hoctet : UInt8.ofNat c.toNat ∈ Text.Utf8.encode s := by
      refine List.mem_flatMap.2 ⟨c, hin, ?_⟩
      have hval : c.val.toNat = c.toNat := rfl
      unfold String.utf8EncodeChar
      simp only [hval]
      rw [if_pos (by omega)]
      exact List.mem_singleton_self _
    have hdecoded := mem_decodeOctets (by rw [hsize]; exact hc) hoctet
    have hread := Text.Utf8.mem_decodeLossy (by rw [hsize]; omega) hdecoded
    rwa [hsize, Char.ofNat_toNat] at hread
  · exact hin

end Percent

/-! ## Domain names -/

namespace Punycode

theorem text_prefix_pass (code : Nat) (writing : Writing) (d : Char) :
    writing.text <+: (writing.pass code d).text := by
  rw [Writing.pass]
  split
  · exact List.prefix_refl _
  · split
    · exact List.prefix_append _ _
    · exact List.prefix_refl _

theorem text_prefix_foldl (code : Nat) (label : List Char) :
    ∀ writing : Writing, writing.text <+: (label.foldl (Writing.pass code) writing).text := by
  induction label with
  | nil =>
      intro writing
      exact List.prefix_refl _
  | cons d label ih =>
      intro writing
      exact (text_prefix_pass code writing d).trans (ih _)

/-- Insertions only add to what is written. -/
theorem text_prefix_writeInsertions (label : List Char) (codes : List Nat) :
    ∀ (next : Nat) (writing : Writing),
      writing.text <+: (writeInsertions label next writing codes).text := by
  induction codes with
  | nil =>
      intro next writing
      exact List.prefix_refl _
  | cons code codes ih =>
      intro next writing
      rw [writeInsertions]
      refine List.IsPrefix.trans ?_ (ih _ _)
      exact text_prefix_foldl code label
        { writing with delta := writing.delta + (code - next) * (writing.count + 1) }

/-- The characters of ASCII stand in the encoded text as they are. -/
theorem mem_encode (hascii : c.toNat < 128) {label : List Char} (h : c ∈ label) :
    c ∈ encode label := by
  have hbasic : c ∈ label.filter (·.toNat < 128) :=
    List.mem_filter.2 ⟨h, decide_eq_true hascii⟩
  have hstart : c ∈ (if (label.filter (·.toNat < 128)).isEmpty then []
      else label.filter (·.toNat < 128) ++ ['-']) := by
    rw [if_neg (by rw [List.isEmpty_iff]; exact List.ne_nil_of_mem hbasic)]
    exact List.mem_append_left _ hbasic
  rw [encode]
  exact (text_prefix_writeInsertions label _ _ _).subset hstart

end Punycode

namespace Domain

open Unicode

/-- The mapping of names keeps an edge character. -/
theorem mapChar?_of_isEdge (h : isEdge c = true) : mapChar? c = some [c] := by
  have hc := toNat_le_of_isEdge h
  have hsecond : (Row.ofWord (Row.ofWord 0 "0V".toList).start "1tUw".toList).start = 65 := by decide
  have hrow : mapping.row? c.toNat = some (Row.ofWord 0 "0V".toList) :=
    Table.row?_ofPieces "0V".toList "1tUw".toList rfl (by decide +kernel) (by omega)
  have hkind : (Row.ofWord 0 "0V".toList).kind = 'V' := by decide
  rw [mapChar?, hrow, Option.bind_some, mappedBy?, hkind]
  rfl

theorem mem_mapText? (h : isEdge c = true) {s : List Char} :
    ∀ {mapped : List Char}, c ∈ s → mapText? s = some mapped → c ∈ mapped := by
  induction s with
  | nil =>
      intro mapped hin
      cases hin
  | cons d rest ih =>
      intro mapped hin hmapped
      rw [mapText?, Option.bind_eq_some_iff] at hmapped
      obtain ⟨first, hfirst, hrest⟩ := hmapped
      obtain ⟨others, hothers, rfl⟩ := Option.map_eq_some_iff.1 hrest
      rcases List.mem_cons.1 hin with rfl | hlater
      · rw [mapChar?_of_isEdge h, Option.some.injEq] at hfirst
        subst hfirst
        exact List.mem_cons_self
      · exact List.mem_append_right first (ih hlater hothers)

/-- A character that separates nothing stands in one of the pieces. -/
theorem exists_piece (isSeparator : Char → Bool) (h : isSeparator c = false) {s : List Char} :
    ∀ {piece : List Char}, c ∈ piece ∨ c ∈ s →
      ∃ found ∈ splitFrom isSeparator piece s, c ∈ found := by
  -- The current piece is general: it holds what was read since the last separator.
  induction s with
  | nil =>
      intro piece hin
      refine ⟨piece.reverse, List.mem_singleton_self _, ?_⟩
      simpa using hin
  | cons d rest ih =>
      intro piece hin
      rw [splitFrom]
      split
      · rename_i hd
        have hne : c ≠ d := by
          rintro rfl
          rw [h] at hd
          cases hd
        rcases hin with hpiece | hin
        · exact ⟨piece.reverse, List.mem_cons_self, List.mem_reverse.2 hpiece⟩
        · rcases List.mem_cons.1 hin with heq | hrest
          · exact absurd heq hne
          · obtain ⟨found, hfound, hc⟩ := ih (.inr hrest)
            exact ⟨found, List.mem_cons_of_mem _ hfound, hc⟩
      · apply ih
        rcases hin with hpiece | hin
        · exact .inl (List.mem_cons_of_mem d hpiece)
        · rcases List.mem_cons.1 hin with rfl | hrest
          · exact .inl List.mem_cons_self
          · exact .inr hrest

/-- A label that can be written keeps an edge character. -/
theorem mem_label? (h : isEdge c = true) {label : List Char} {l : Label} (hin : c ∈ label)
    (hl : label? label = some l) : c ∈ l.ascii := by
  have hascii : c.toNat < 128 := Nat.lt_of_le_of_lt (toNat_le_of_isEdge h) (by decide)
  rw [label?] at hl
  split at hl
  · split at hl
    · cases hl
    · split at hl
      · cases hl
        exact hin
      · cases hl
        exact List.mem_append_right encodedMark (Punycode.mem_encode hascii hin)
  · obtain ⟨reading, -, hreading⟩ := Option.bind_eq_some_iff.1 hl
    split at hreading
    · cases hreading
      exact hin
    · cases hreading

theorem mem_labels? (h : isEdge c = true) {label : List Char} (hin : c ∈ label)
    {pieces : List (List Char)} :
    ∀ {labels : List Label}, label ∈ pieces → labels? pieces = some labels →
      ∃ l ∈ labels, c ∈ l.ascii := by
  induction pieces with
  | nil =>
      intro labels hlabel
      cases hlabel
  | cons first rest ih =>
      intro labels hlabel hlabels
      rw [labels?, Option.bind_eq_some_iff] at hlabels
      obtain ⟨l, hl, hrest⟩ := hlabels
      obtain ⟨others, hothers, rfl⟩ := Option.map_eq_some_iff.1 hrest
      rcases List.mem_cons.1 hlabel with rfl | hlater
      · exact ⟨l, List.mem_cons_self, mem_label? h hin hl⟩
      · obtain ⟨other, hother, hc⟩ := ih hlater hothers
        exact ⟨other, List.mem_cons_of_mem l hother, hc⟩

theorem mem_joinDots {label : List Char} (hin : c ∈ label) {labels : List (List Char)}
    (hlabel : label ∈ labels) : c ∈ joinDots labels := by
  fun_induction joinDots labels with
  | case1 => cases hlabel
  | case2 only =>
      rw [List.mem_singleton.1 hlabel] at hin
      exact hin
  | case3 first rest hrest ih =>
      rcases List.mem_cons.1 hlabel with rfl | hlater
      · exact List.mem_append_left _ hin
      · exact List.mem_append_right _ (List.mem_cons_of_mem '.' (ih hlater))

/-- A name that can be written in ASCII keeps an edge character. -/
theorem mem_toAsciiMapped? (h : isEdge c = true) {name ascii : List Char} (hin : c ∈ name)
    (hname : toAsciiMapped? name = some ascii) : c ∈ ascii := by
  rw [toAsciiMapped?, Option.bind_eq_some_iff] at hname
  obtain ⟨mapped, hmapped, hname⟩ := hname
  obtain ⟨labels, hlabels, hname⟩ := Option.bind_eq_some_iff.1 hname
  have hnormal := Unicode.Normal.mem_normalize (toNat_le_of_isEdge h) (mem_mapText? h hin hmapped)
  have hdot : decide (c = '.') = false := decide_eq_false (ne_of_isEdge h (by decide))
  obtain ⟨label, hlabel, hc⟩ := exists_piece (· = '.') hdot (.inr hnormal)
  obtain ⟨l, hl, hc⟩ := mem_labels? h hc hlabel hlabels
  split at hname
  · cases hname
    exact mem_joinDots hc (List.mem_map_of_mem hl)
  · cases hname

/-- No domain name has a space or a control character. -/
theorem toAscii?_eq_none (h : isEdge c = true) {name : List Char} (hin : c ∈ name) :
    toAscii? name = none := by
  have hc := toNat_le_of_isEdge h
  have hforbidden : isForbidden c = true := by
    have hspace : c.toNat < 0x20 ∨ c = ' ' := by
      by_cases hlow : c.toNat < 0x20
      · exact .inl hlow
      · have hvalue : c.toNat = ' '.toNat := Nat.le_antisymm hc (Nat.le_of_not_lt hlow)
        exact .inr (Char.toNat_inj.1 hvalue)
    rcases hspace with hlow | rfl
    · simp [isForbidden, hlow]
    · rfl
  rw [toAscii?, Option.filter_eq_none_iff]
  intro ascii hascii
  have hmem : c ∈ ascii := by
    split at hascii
    · cases hascii
      -- A name of ASCII is only put into lower case.
      have hlower : c.toLower = c := by
        delta Char.toLower
        rw [dif_neg]
        rintro ⟨hupper, -⟩
        exact absurd (Nat.le_trans (UInt32.le_iff_toNat_le.1 hupper) hc) (by decide)
      rw [← hlower]
      exact List.mem_map_of_mem hin
    · exact mem_toAsciiMapped? h hin hascii
  have hany : ascii.any isForbidden = true := List.any_eq_true.2 ⟨c, hmem, hforbidden⟩
  simp [hany]

end Domain

/-! ## Hosts and authorities -/

/-- A host that ends with a space or a control character is none. -/
theorem Host.parse_eq_error (h : isEdge c = true) (front : List Char) :
    ∃ fault, Host.parse (front ++ [c]) = .error fault := by
  rw [Host.parse]
  split
  · -- A host in brackets ends with the closing one.
    rw [parseBrackets]
    have hlast : ¬ (front ++ [c]).getLast? = some ']' := by
      rw [List.getLast?_concat, Option.some.injEq]
      exact ne_of_isEdge h (by decide)
    rw [if_neg hlast]
    exact ⟨_, rfl⟩
  · have hin : c ∈ Percent.decode (front ++ [c]) :=
      Percent.mem_decode h (List.mem_append_right front (List.mem_singleton_self c))
    rw [Domain.toAscii?_eq_none h hin]
    exact ⟨_, rfl⟩

/-- A host ends with its text or in front of a colon. -/
theorem drop_hostLength (s : List Char) :
    ∀ inBrackets, hostLength inBrackets s = s.length ∨
      ∃ rest, s.drop (hostLength inBrackets s) = ':' :: rest := by
  induction s with
  | nil =>
      intro inBrackets
      exact .inl rfl
  | cons d rest ih =>
      intro inBrackets
      rw [hostLength]
      split
      · rename_i hcolon
        simp only [Bool.and_eq_true, decide_eq_true_iff] at hcolon
        rw [hcolon.1]
        exact .inr ⟨rest, rfl⟩
      · rcases ih (d = '[' || (inBrackets && d ≠ ']')) with hall | hlater
        · exact .inl (congrArg Nat.succ hall)
        · exact .inr hlater

/-- The number of a service does not end with a space or a control character. -/
theorem serviceOf_eq_error (h : isEdge c = true) {front : List Char} (hfront : '\\' ∉ front) :
    serviceOf (':' :: (front ++ [c])) = .error .invalidServiceNumber := by
  have hall : ∀ d ∈ front ++ [c], decide (d ≠ '\\') = true := by
    intro d hd
    rcases List.mem_append.1 hd with hd | hd
    · exact decide_eq_true fun heq => hfront (heq ▸ hd)
    · rw [List.mem_singleton.1 hd]
      exact decide_eq_true (ne_of_isEdge h (by decide))
  have hdigit : c.isDigit = false := by
    have hc := toNat_le_of_isEdge h
    simp only [Char.isDigit, Bool.and_eq_false_iff, decide_eq_false_iff_not, UInt32.le_iff_toNat_le]
    exact .inl fun hlow => absurd (Nat.le_trans hlow hc) (by decide)
  have hnone : Text.parseDigits? (front ++ [c]) = none := by
    simp [Text.parseDigits?, hdigit]
  rw [serviceOf, List.takeWhile_eq_self_iff.2 hall, serviceNumber.eq_2, hnone]
  · rfl
  · exact List.append_ne_nil_of_right_ne_nil front (List.cons_ne_nil c [])

/-- The text of a host and its service keeps the end of the authority. -/
theorem exists_userAndHost (h : isEdge c = true) (front : List Char) :
    ∃ user behind, userAndHost (front ++ [c]) = (user, behind ++ [c]) ∧ behind <:+ front := by
  have hc : decide (c ≠ '@') = true := decide_eq_true (ne_of_isEdge h (by decide))
  have hhost : ((front ++ [c]).reverse.takeWhile (· ≠ '@')).reverse =
      (front.reverse.takeWhile (· ≠ '@')).reverse ++ [c] := by
    rw [List.reverse_concat]
    simp only [List.takeWhile_cons, hc, if_true, List.reverse_cons]
  have hsuffix : (front.reverse.takeWhile (· ≠ '@')).reverse <:+ front := by
    rw [← List.reverse_prefix, List.reverse_reverse]
    exact List.takeWhile_prefix _
  rw [userAndHost, splitUser]
  split
  · exact ⟨_, _, congrArg (Prod.mk _) hhost, hsuffix⟩
  · exact ⟨[], front, rfl, List.suffix_refl front⟩

/-- The authority of a web address does not end with a space or a control character. -/
theorem parseWebAuthority_eq_error (h : isEdge c = true) {front : List Char}
    (hfront : '\\' ∉ front) :
    ∃ fault, parseWebAuthority (front ++ [c]) = .error fault := by
  obtain ⟨user, behind, huser, hsuffix⟩ := exists_userAndHost h front
  delta parseWebAuthority
  rw [huser]
  dsimp only
  split
  · exact ⟨_, rfl⟩
  rcases drop_hostLength (behind ++ [c]) false with hall | ⟨rest, hrest⟩
  · -- All of the text is a host.
    rw [hall, List.take_length]
    obtain ⟨fault, hfault⟩ := Host.parse_eq_error h behind
    rw [hfault]
    exact ⟨fault, rfl⟩
  · -- The character stands behind the colon, where the number of the service is.
    obtain ⟨number, rfl, hnumber⟩ : ∃ number, rest = number ++ [c] ∧ number <:+ behind := by
      have hshort : hostLength false (behind ++ [c]) ≤ behind.length := by
        apply Nat.le_of_not_lt
        intro hlong
        rw [List.drop_eq_nil_of_le (by rw [List.length_append]; exact hlong)] at hrest
        cases hrest
      rw [List.drop_append_of_le_length hshort] at hrest
      cases hdrop : behind.drop (hostLength false (behind ++ [c])) with
      | nil =>
          rw [hdrop] at hrest
          exact absurd (List.cons.inj hrest).1 (ne_of_isEdge h (by decide))
      | cons d number =>
          rw [hdrop] at hrest
          refine ⟨number, (List.cons.inj hrest).2.symm, ?_⟩
          exact (List.suffix_cons d number).trans (hdrop ▸ List.drop_suffix _ behind)
    have hservice := serviceOf_eq_error h fun hin => hfront (hsuffix.subset (hnumber.subset hin))
    rw [hrest, hservice]
    cases Host.parse (List.take (hostLength false (behind ++ [c])) (behind ++ [c])) with
    | error fault => exact ⟨fault, rfl⟩
    | ok host => exact ⟨_, rfl⟩

end QueryBridge.Url
