import QueryBridge.Proofs.Settings.Answers
import QueryBridge.Proofs.Url.Hosts
import QueryBridge.Service.Exchange

/-!
# When the address of a request is one

The check of an endpoint reads it without what stands around it, and the address of a request is
made from the endpoint as it is. So an endpoint that passes the check may end with spaces or control
characters, which the address of a request then holds in its midst. Behind the authority they do no
harm; right after it they become part of it, and no authority ends with one. That is the only way in
which settings that resolve give requests without an address (`request_address_iff`).
-/

set_option autoImplicit false

namespace QueryBridge

namespace Url

open QueryBridge.Text (span_append)

/-! ## Web addresses by their parts -/

/-- The parts of a cleaned text that is a web address if its authority is one. -/
structure WebParts (s scheme slashes authority behind : List Char) : Prop where
  text : s = scheme ++ ':' :: (slashes ++ (authority ++ behind))
  schemeHead : scheme.head?.any Char.isAlpha = true
  schemeChars : ∀ c ∈ scheme, isSchemeChar c = true
  web : scheme.map Char.toLower = "http".toList ∨ scheme.map Char.toLower = "https".toList
  slashChars : ∀ c ∈ slashes, isSlash c = true
  authorityChars : ∀ c ∈ authority, endsAuthority true c = false
  authority_ne_nil : authority ≠ []
  behindHead : ∀ c ∈ behind.head?, endsAuthority true c = true

/-- The text behind the authority of a web address. -/
def behindAuthority (s : List Char) : List Char :=
  (splitScheme (clean s)).elim [] fun parts => (splitAuthority true (parts.2.dropWhile isSlash)).2

theorem isSlash_eq_false {c : Char} (h : endsAuthority true c = false) : isSlash c = false := by
  simp only [endsAuthority, Bool.or_eq_false_iff, Bool.true_and] at h
  rw [isSlash, h.1.1.1, h.2]
  rfl

section Parts

variable {s scheme slashes authority behind : List Char} {secure : Bool}

/-- The scheme of an address ends at its first colon. -/
theorem splitScheme_of_parts (h : WebParts s scheme slashes authority behind) :
    splitScheme s = some (scheme.map Char.toLower, slashes ++ (authority ++ behind)) := by
  have hcolon : ∀ c ∈ (':' :: (slashes ++ (authority ++ behind))).head?,
      isSchemeChar c = false := by
    rintro c ⟨⟩
    rfl
  obtain ⟨htake, hdrop⟩ := span_append h.schemeChars hcolon
  have hhead : (scheme ++ ':' :: (slashes ++ (authority ++ behind))).head?.any Char.isAlpha =
      true := by
    have hscheme := h.schemeHead
    cases scheme with
    | nil => cases hscheme
    | cons c rest => exact hscheme
  rw [h.text, splitScheme, htake, hdrop, hhead]
  rfl

theorem dropWhile_isSlash_of_parts (h : WebParts s scheme slashes authority behind) :
    (slashes ++ (authority ++ behind)).dropWhile isSlash = authority ++ behind := by
  have hhead : ∀ c ∈ (authority ++ behind).head?, isSlash c = false := by
    intro c hc
    obtain ⟨first, rest, rfl⟩ := List.exists_cons_of_ne_nil h.authority_ne_nil
    cases hc
    exact isSlash_eq_false (h.authorityChars c List.mem_cons_self)
  exact (span_append h.slashChars hhead).2

theorem splitAuthority_of_parts (h : WebParts s scheme slashes authority behind) :
    splitAuthority true (authority ++ behind) = (authority, behind) := by
  have hchars : ∀ c ∈ authority, (!endsAuthority true c) = true := by
    intro c hc
    rw [h.authorityChars c hc]
    rfl
  have hhead : ∀ c ∈ behind.head?, (!endsAuthority true c) = false := by
    intro c hc
    rw [h.behindHead c hc]
    rfl
  obtain ⟨htake, hdrop⟩ := span_append hchars hhead
  rw [splitAuthority, htake, hdrop]

/-- What is behind the authority can be found in the cleaned text. -/
theorem behindAuthority_of_parts (h : WebParts (clean s) scheme slashes authority behind) :
    behindAuthority s = behind := by
  rw [behindAuthority, splitScheme_of_parts h, Option.elim_some, dropWhile_isSlash_of_parts h,
    splitAuthority_of_parts h]

/-- A web address is what its authority is: the parts around it never fail. -/
theorem parseWeb_of_parts (h : WebParts s scheme slashes authority behind) :
    parseWeb secure (slashes ++ (authority ++ behind)) =
      (parseWebAuthority authority).map fun parsed =>
        webAddress secure (parsed.normalize secure) behind := by
  rw [parseWeb, dropWhile_isSlash_of_parts h, splitAuthority_of_parts h]
  dsimp only
  cases parseWebAuthority authority with
  | error fault => rfl
  | ok parsed => rfl

/-- An address with all its parts is read by its authority. -/
theorem parse_of_parts (h : WebParts (clean s) scheme slashes authority behind) :
    ∃ secure, parse s = (parseWebAuthority authority).map fun parsed =>
      .web (webAddress secure (parsed.normalize secure) behind) := by
  have hhttps : ¬ "https".toList = "http".toList := by decide
  rw [parse, splitScheme_of_parts h]
  dsimp only
  rcases h.web with hweb | hweb
  · refine ⟨false, ?_⟩
    rw [hweb, if_pos rfl, parseWeb_of_parts h]
    cases parseWebAuthority authority with
    | error fault => rfl
    | ok parsed => rfl
  · refine ⟨true, ?_⟩
    rw [hweb, if_neg hhttps, if_pos rfl, parseWeb_of_parts h]
    cases parseWebAuthority authority with
    | error fault => rfl
    | ok parsed => rfl

/-- Text that splits at a scheme has one in front of a colon. -/
theorem exists_scheme {name rest : List Char} (h : splitScheme s = some (name, rest)) :
    ∃ scheme, s = scheme ++ ':' :: rest ∧ scheme.head?.any Char.isAlpha = true ∧
      (∀ c ∈ scheme, isSchemeChar c = true) ∧ name = scheme.map Char.toLower := by
  rw [splitScheme] at h
  split at h
  · rename_i behindColon halpha hcolon
    cases h
    refine ⟨s.takeWhile isSchemeChar, ?_, ?_, ?_, rfl⟩
    · rw [← hcolon, List.takeWhile_append_dropWhile]
    · cases s with
      | nil => cases halpha
      | cons c tail =>
          have hc : c.isAlpha = true := halpha
          have hscheme : isSchemeChar c = true := by simp [isSchemeChar, Char.isAlphanum, hc]
          rw [List.takeWhile_cons_of_pos hscheme]
          exact hc
    · intro c hc
      exact List.mem_takeWhile_imp hc
  · cases h

/-- A web address that can be read has an authority behind its slashes. -/
theorem exists_authority {rest : List Char} {address : WebAddress}
    (h : parseWeb secure rest = .ok address) :
    ∃ slashes authority behind parsed, rest = slashes ++ (authority ++ behind) ∧
      (∀ c ∈ slashes, isSlash c = true) ∧ (∀ c ∈ authority, endsAuthority true c = false) ∧
      authority ≠ [] ∧ (∀ c ∈ behind.head?, endsAuthority true c = true) ∧
      parseWebAuthority authority = .ok parsed := by
  rw [parseWeb, splitAuthority] at h
  dsimp only at h
  cases hauthority : parseWebAuthority
      ((rest.dropWhile isSlash).takeWhile (!endsAuthority true ·)) with
  | error fault =>
      rw [hauthority] at h
      cases h
  | ok parsed =>
      refine ⟨rest.takeWhile isSlash, _, (rest.dropWhile isSlash).dropWhile (!endsAuthority true ·),
        parsed, ?_, ?_, ?_, ?_, ?_, hauthority⟩
      · rw [List.takeWhile_append_dropWhile, List.takeWhile_append_dropWhile]
      · intro c hc
        exact List.mem_takeWhile_imp hc
      · intro c hc
        simpa using List.mem_takeWhile_imp hc
      · intro hnil
        rw [hnil] at hauthority
        cases hauthority
      · intro c hc
        have hnot := List.head?_dropWhile_not (!endsAuthority true ·) (rest.dropWhile isSlash)
        rw [Option.mem_def.1 hc] at hnot
        simpa using hnot

/-- A web address has parts, and its authority is one. -/
theorem exists_parts {address : WebAddress} (h : parse s = .ok (.web address)) :
    ∃ scheme slashes authority behind parsed, WebParts (clean s) scheme slashes authority behind ∧
      parseWebAuthority authority = .ok parsed := by
  rw [parse] at h
  cases hscheme : splitScheme (clean s) with
  | none =>
      rw [hscheme] at h
      cases h
  | some found =>
      obtain ⟨name, rest⟩ := found
      obtain ⟨scheme, htext, hhead, hchars, rfl⟩ := exists_scheme hscheme
      rw [hscheme] at h
      dsimp only at h
      -- Only the two schemes of the web lead to a web address.
      obtain ⟨secure, address, hweb, hparsed⟩ : ∃ secure address,
          (scheme.map Char.toLower = "http".toList ∨ scheme.map Char.toLower = "https".toList) ∧
            parseWeb secure rest = .ok address := by
        split at h
        · rename_i hname
          cases hparsed : parseWeb false rest with
          | error fault =>
              rw [hparsed] at h
              cases h
          | ok address => exact ⟨false, address, .inl hname, hparsed⟩
        · split at h
          · rename_i hname
            cases hparsed : parseWeb true rest with
            | error fault =>
                rw [hparsed] at h
                cases h
            | ok address => exact ⟨true, address, .inr hname, hparsed⟩
          · cases hother : checkOther (scheme.map Char.toLower) rest with
            | error fault =>
                rw [hother] at h
                cases h
            | ok _ =>
                rw [hother] at h
                cases h
      obtain ⟨slashes, authority, behind, parsed, rfl, hslashes, hauthority,
        hne, hbehind, hparsed⟩ := exists_authority hparsed
      exact ⟨scheme, slashes, authority, behind, parsed,
        ⟨htext, hhead, hchars, hweb, hslashes, hauthority, hne, hbehind⟩, hparsed⟩

end Parts

/-! ## What cleaning leaves of the address of a request -/

/-- The spaces and control characters behind a text, without those that are ignored anywhere. -/
def trailing (s : List Char) : List Char :=
  ((s.dropWhile isEdge).reverse.takeWhile isEdge).reverse.filter (!isIgnored ·)

section Clean

variable {s front path : List Char}

/-- Cleaning drops the edge characters in front, those that are ignored anywhere, and what trails. -/
theorem clean_append_trailing (s : List Char) :
    clean s ++ trailing s = (s.dropWhile isEdge).filter (!isIgnored ·) := by
  rw [clean, trailing, ← List.filter_append, ← List.reverse_append,
    List.takeWhile_append_dropWhile, List.reverse_reverse]

theorem isEdge_of_mem_trailing {c : Char} (h : c ∈ trailing s) : isEdge c = true := by
  have hmem := List.mem_reverse.1 (List.mem_filter.1 h).1
  exact List.mem_takeWhile_imp hmem

/-- A slash ends the edge characters in front. -/
theorem dropWhile_append_slash (front path : List Char) :
    (front ++ '/' :: path).dropWhile isEdge = front.dropWhile isEdge ++ '/' :: path := by
  induction front with
  | nil => rfl
  | cons c rest ih =>
      cases hc : isEdge c with
      | true => simp only [List.cons_append, List.dropWhile_cons, hc, if_true, ih]
      | false => simp [hc]

/-- Cleaning a text with a path behind it only affects the text, and nothing at the end of that. -/
theorem clean_append_slash (front : List Char)
    (hpath : ∀ c ∈ path, isEdge c = false ∧ isIgnored c = false) :
    clean (front ++ '/' :: path) =
      (front.dropWhile isEdge).filter (!isIgnored ·) ++ '/' :: path := by
  have hslash : ∀ c ∈ '/' :: path, isEdge c = false ∧ isIgnored c = false := by
    intro c hc
    rcases List.mem_cons.1 hc with rfl | hin
    · exact ⟨rfl, rfl⟩
    · exact hpath c hin
  -- The path ends with no space, so nothing is cut off behind it.
  have hend : ∀ text : List Char, (text ++ '/' :: path).reverse.dropWhile isEdge =
      (text ++ '/' :: path).reverse := by
    intro text
    rw [List.reverse_append]
    cases hlast : ('/' :: path).reverse with
    | nil => simp at hlast
    | cons c others =>
        have hc : c ∈ '/' :: path := by
          rw [← List.mem_reverse, hlast]
          exact List.mem_cons_self
        have hedge : ¬ isEdge c = true := by simp [(hslash c hc).1]
        rw [List.cons_append, List.dropWhile_cons_of_neg hedge]
  have hkept : ('/' :: path).filter (!isIgnored ·) = '/' :: path := by
    rw [List.filter_eq_self]
    intro c hc
    rw [(hslash c hc).2]
    rfl
  rw [clean, dropWhile_append_slash, hend, List.reverse_reverse, List.filter_append, hkept]

/-- A text falls into one without slashes at its end and these slashes. -/
theorem exists_slashes (s : List Char) :
    ∃ count, s = Endpoint.trimSlashes s ++ List.replicate count '/' := by
  refine ⟨(s.reverse.takeWhile (· = '/')).length, ?_⟩
  have hslashes : s.reverse.takeWhile (· = '/') =
      List.replicate (s.reverse.takeWhile (· = '/')).length '/' := by
    rw [List.eq_replicate_iff]
    refine ⟨rfl, ?_⟩
    intro c hc
    simpa using List.mem_takeWhile_imp hc
  rw [Endpoint.trimSlashes, ← List.reverse_replicate, ← hslashes, ← List.reverse_append,
    List.takeWhile_append_dropWhile, List.reverse_reverse]

/-- The cleaned address of a request has the cleaned endpoint in front, and what trails behind the
endpoint, but for slashes. -/
theorem exists_clean_url (endpoint : String) (d : Direction) :
    ∃ front count,
      clean endpoint.toList ++ trailing endpoint.toList = front ++ List.replicate count '/' ∧
      clean (Endpoint.url endpoint d).toList = front ++ '/' :: d.endpointPath.toList := by
  have hall : (d.endpointPath.toList.all fun c => !isEdge c && !isIgnored c) = true := by
    cases d <;> decide
  have hpath : ∀ c ∈ d.endpointPath.toList, isEdge c = false ∧ isIgnored c = false := by
    intro c hc
    simpa using List.all_eq_true.1 hall c hc
  obtain ⟨count, hcount⟩ := exists_slashes endpoint.toList
  refine ⟨((Endpoint.trimSlashes endpoint.toList).dropWhile isEdge).filter (!isIgnored ·), count,
    ?_, ?_⟩
  · rw [clean_append_trailing]
    conv => lhs; rw [hcount]
    cases count with
    | zero => simp
    | succ count =>
        -- Slashes that are trimmed for the request are kept when the endpoint is cleaned.
        rw [List.replicate_succ, dropWhile_append_slash, List.filter_append]
        congr 1
        rw [List.filter_eq_self]
        intro c hc
        rw [← List.replicate_succ] at hc
        rw [List.eq_of_mem_replicate hc]
        rfl
  · rw [Endpoint.url, String.toList_ofList, clean_append_slash _ hpath]

end Clean

/-! ## The address of a request -/

/-- A text ends right behind its authority, with spaces or control characters that are part of an
address. -/
structure Dangles (s : List Char) : Prop where
  blank : trailing s ≠ []
  bare : behindAuthority s = []

section Request

variable {endpoint : String} {scheme slashes authority behind : List Char} {parsed : Authority}

theorem endsAuthority_of_isEdge {c : Char} (h : isEdge c = true) :
    endsAuthority true c = false := by
  simp [endsAuthority, ne_of_isEdge h (d := '/') (by decide), ne_of_isEdge h (d := '?') (by decide),
    ne_of_isEdge h (d := '#') (by decide), ne_of_isEdge h (d := '\\') (by decide)]

/-- Slashes at the end of a text do not reach back to a character that is none. -/
theorem exists_middle {base rest front : List Char} {c : Char} {count : Nat} (hc : c ≠ '/')
    (h : (base ++ [c]) ++ rest = front ++ List.replicate count '/') :
    ∃ middle, front = (base ++ [c]) ++ middle ∧ rest = middle ++ List.replicate count '/' := by
  rcases List.append_eq_append_iff.1 h with ⟨middle, hfront, hrest⟩ | ⟨extra, hbase, hslashes⟩
  · exact ⟨middle, hfront, hrest⟩
  · rcases List.eq_nil_or_concat extra with rfl | ⟨others, d, rfl⟩
    · refine ⟨[], ?_, hslashes.symm⟩
      rw [List.append_nil] at hbase ⊢
      exact hbase.symm
    · have hd : d = '/' := by
        apply List.eq_of_mem_replicate (n := count)
        rw [hslashes]
        simp
      have hlast : c = d := by
        rw [List.concat_eq_append, ← List.append_assoc] at hbase
        exact List.singleton_inj.1 (List.append_inj' hbase rfl).2
      exact absurd (hlast.trans hd) hc

/-- The address of a request has the parts of the endpoint, and what trails behind the endpoint, in
front of the path. -/
theorem exists_clean_url_of_parts (d : Direction)
    (h : WebParts (clean endpoint.toList) scheme slashes authority behind) :
    ∃ middle count,
      behind ++ trailing endpoint.toList = middle ++ List.replicate count '/' ∧
      clean (Endpoint.url endpoint d).toList =
        scheme ++ ':' :: (slashes ++ (authority ++ (middle ++ '/' :: d.endpointPath.toList))) := by
  obtain ⟨front, count, htext, hurl⟩ := exists_clean_url endpoint d
  rcases List.eq_nil_or_concat authority with hnil | ⟨init, c, hauthority⟩
  · exact absurd hnil h.authority_ne_nil
  -- An authority does not end with a slash, so the slashes that are trimmed stand behind it.
  have hc : c ≠ '/' := by
    rintro rfl
    have hends := h.authorityChars '/' (by rw [hauthority]; simp)
    cases hends
  have hsplit : ((scheme ++ ':' :: (slashes ++ init)) ++ [c]) ++
      (behind ++ trailing endpoint.toList) = front ++ List.replicate count '/' := by
    rw [← htext, h.text, hauthority]
    simp
  obtain ⟨middle, rfl, hmiddle⟩ := exists_middle hc hsplit
  refine ⟨middle, count, hmiddle, ?_⟩
  rw [hurl, hauthority]
  simp

/-- The authority of an endpoint is that of its requests if something stands behind it, or nothing
trails behind the endpoint. -/
theorem exists_parts_url_of_kept (d : Direction)
    (h : WebParts (clean endpoint.toList) scheme slashes authority behind)
    (hkept : behind ≠ [] ∨ trailing endpoint.toList = []) :
    ∃ more, WebParts (clean (Endpoint.url endpoint d).toList) scheme slashes authority more := by
  obtain ⟨middle, count, hmiddle, hurl⟩ := exists_clean_url_of_parts d h
  refine ⟨middle ++ '/' :: d.endpointPath.toList, hurl, h.schemeHead, h.schemeChars, h.web,
    h.slashChars, h.authorityChars, h.authority_ne_nil, ?_⟩
  intro c hc
  cases middle with
  | nil =>
      cases hc
      rfl
  | cons first rest =>
      cases hc
      -- What stands in front of the path begins as what stood behind the authority of the endpoint.
      cases behind with
      | nil =>
          rcases hkept with hne | hnone
          · exact absurd rfl hne
          · rw [hnone] at hmiddle
            cases hmiddle
      | cons head tail =>
          rw [← (List.cons.inj hmiddle).1]
          exact h.behindHead head rfl

/-- What trails right behind the authority of an endpoint belongs to the authority of its
requests. -/
theorem exists_parts_url_of_bare (d : Direction)
    (h : WebParts (clean endpoint.toList) scheme slashes authority []) :
    ∃ more, WebParts (clean (Endpoint.url endpoint d).toList) scheme slashes
      (authority ++ trailing endpoint.toList) more := by
  obtain ⟨middle, count, hmiddle, hurl⟩ := exists_clean_url_of_parts d h
  rw [List.nil_append] at hmiddle
  -- No slash is among the spaces and control characters.
  have hcount : count = 0 := by
    cases count with
    | zero => rfl
    | succ count =>
        have hslash : '/' ∈ trailing endpoint.toList := by
          rw [hmiddle, List.replicate_succ]
          simp
        have hedge := isEdge_of_mem_trailing hslash
        cases hedge
  rw [hcount, List.replicate_zero, List.append_nil] at hmiddle
  refine ⟨'/' :: d.endpointPath.toList, ?_, h.schemeHead, h.schemeChars, h.web, h.slashChars,
    ?_, ?_, ?_⟩
  · rw [hurl, hmiddle, List.append_assoc]
  · intro c hc
    rcases List.mem_append.1 hc with hc | hc
    · exact h.authorityChars c hc
    · exact endsAuthority_of_isEdge (isEdge_of_mem_trailing hc)
  · exact List.append_ne_nil_of_left_ne_nil h.authority_ne_nil _
  · rintro c ⟨⟩
    rfl

end Request

end Url

/-! ## Requests of settings that resolve -/

namespace Endpoint

open Url

/-- An address passes exactly where it can be read as a web address. -/
theorem validate_eq_ok_iff {endpoint : String} :
    validate endpoint = .ok () ↔ ∃ address, Url.parse endpoint.toList = .ok (.web address) := by
  delta validate
  cases Url.parse endpoint.toList with
  | error fault => simp
  | ok parsed =>
      cases parsed with
      | web address => simp
      | other scheme => simp

/-- Text dangles at an authority exactly where something trails and nothing is behind it. -/
theorem dangles_iff {endpoint : String} {scheme slashes authority behind : List Char}
    (h : WebParts (clean endpoint.toList) scheme slashes authority behind) :
    Dangles endpoint.toList ↔ trailing endpoint.toList ≠ [] ∧ behind = [] := by
  rw [← behindAuthority_of_parts h]
  exact ⟨fun hdangles => ⟨hdangles.blank, hdangles.bare⟩, fun hboth => ⟨hboth.1, hboth.2⟩⟩

/-- The address that an endpoint gives its requests is one unless the endpoint dangles. -/
theorem validate_url_iff {endpoint : String} (h : validate endpoint = .ok ()) (d : Direction) :
    validate (url endpoint d) = .ok () ↔ ¬ Dangles endpoint.toList := by
  obtain ⟨address, haddress⟩ := validate_eq_ok_iff.1 h
  obtain ⟨scheme, slashes, authority, behind, parsed, hparts, hparsed⟩ := exists_parts haddress
  rw [dangles_iff hparts, validate_eq_ok_iff]
  constructor
  · rintro ⟨requested, hrequested⟩ ⟨htrailing, rfl⟩
    -- The authority of the request ends with what trails behind the endpoint.
    obtain ⟨more, hmore⟩ := exists_parts_url_of_bare d hparts
    rcases List.eq_nil_or_concat (trailing endpoint.toList) with hnil | ⟨init, c, hinit⟩
    · exact htrailing hnil
    have hc : isEdge c = true := by
      apply isEdge_of_mem_trailing (s := endpoint.toList)
      rw [hinit]
      simp
    have hfront : '\\' ∉ authority ++ init := by
      intro hin
      have hends := hmore.authorityChars '\\' <| by
        rw [hinit, List.concat_eq_append, ← List.append_assoc]
        exact List.mem_append_left [c] hin
      exact absurd hends (by decide)
    obtain ⟨fault, hfault⟩ := parseWebAuthority_eq_error hc hfront
    obtain ⟨secure, hparse⟩ := parse_of_parts hmore
    rw [hinit, List.concat_eq_append, ← List.append_assoc, hfault, hrequested] at hparse
    cases hparse
  · intro hnot
    have hkept : behind ≠ [] ∨ trailing endpoint.toList = [] := by
      cases behind with
      | nil =>
          right
          apply Classical.byContradiction
          intro htrailing
          exact hnot ⟨htrailing, rfl⟩
      | cons first rest => exact .inl (List.cons_ne_nil first rest)
    obtain ⟨more, hmore⟩ := exists_parts_url_of_kept d hparts hkept
    obtain ⟨secure, hparse⟩ := parse_of_parts hmore
    rw [hparsed] at hparse
    exact ⟨_, hparse⟩

end Endpoint

namespace Settings

open Url

/-- Wherever the endpoint of settings that resolve comes from, the address of their requests passes
the check of endpoints in each direction, unless the endpoint ends with spaces or control characters
right behind its authority. If it does, no request goes out, whatever the service would do. -/
theorem request_address_iff {commandLine file : Settings} {connection : Connection}
    (h : resolve commandLine file = .ok connection) (d : Direction) :
    (Endpoint.validate (Endpoint.url connection.endpoint d) = .ok () ↔
      ¬ Dangles connection.endpoint.toList) ∧
    (Dangles connection.endpoint.toList → ∀ network text,
      (Service.Client.ofConnection connection).exchange network ⟨d, text⟩ =
        .unsent (Endpoint.url connection.endpoint d) "builder error") := by
  obtain ⟨hvalid, -, rfl⟩ := resolve_eq_ok_iff.1 h
  have hiff := Endpoint.validate_url_iff hvalid d
  refine ⟨hiff, ?_⟩
  intro hdangles network text
  have hdestination : (Service.Client.ofConnection
      ⟨chosenEndpoint commandLine file, chosenTimeout commandLine file⟩).destination d =
        .error "builder error" := by
    delta Service.Client.destination Service.Client.ofConnection
    dsimp only
    cases hparse : Url.parse (Endpoint.url (chosenEndpoint commandLine file) d).toList with
    | error fault => rfl
    | ok parsed =>
        cases parsed with
        | other scheme => rfl
        | web address =>
            have hok := Endpoint.validate_eq_ok_iff.2 ⟨address, hparse⟩
            exact absurd hdangles (hiff.1 hok)
  delta Service.Client.exchange
  dsimp only
  rw [hdestination]
  rfl

/-- A space behind the slash of an endpoint does no harm. -/
theorem request_address_of_slash_space :
    resolve {} ⟨some "http://h:1/ ", none⟩ = .ok ⟨"http://h:1/ ", 30⟩ ∧
      Endpoint.validate (Endpoint.url "http://h:1/ " .mongoToSql) = .ok () := by
  have hresolve : resolve {} ⟨some "http://h:1/ ", none⟩ = .ok ⟨"http://h:1/ ", 30⟩ := by rfl
  have hbehind : behindAuthority "http://h:1/ ".toList = ['/'] := by decide
  refine ⟨hresolve, (request_address_iff hresolve .mongoToSql).1.2 ?_⟩
  intro hdangles
  have hbare := hdangles.bare
  rw [hbehind] at hbare
  cases hbare

/-- A space behind the authority of an endpoint passes the check, and no request has an address. -/
theorem no_address_of_space :
    resolve {} ⟨some "http://localhost:5000 ", none⟩ = .ok ⟨"http://localhost:5000 ", 30⟩ ∧
      ∀ d, Endpoint.validate (Endpoint.url "http://localhost:5000 " d) ≠ .ok () := by
  constructor
  · rfl
  · intro d h
    cases d <;> cases h

end Settings

end QueryBridge
