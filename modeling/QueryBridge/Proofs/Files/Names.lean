import QueryBridge.Files.Replace
import QueryBridge.Proofs.Text.Spelling

/-!
# The names of a path

The names of a path are its pieces that are not empty. A path is ordinary if none of them is one
point or two points. The names of an ordinary path without any name in it are none, and it has
neither a last name nor a path above it; every other ordinary path has a last name, and the path
above it has the names in front of that one (`names_of_ordinary`). The temporary file for a target
takes the place of the last name (`names_temporary`).
-/

set_option autoImplicit false

namespace QueryBridge.Files

/-! ## Names in a text -/

/-- The names in a text, which stand between slashes. -/
def namesOf (s : List Char) : List (List Char) :=
  (Text.splitAll (· = '/') s).filter (· ≠ [])

section Texts

variable {front behind name : List Char}

@[simp] theorem namesOf_nil : namesOf [] = [] := rfl

theorem namesOf_append_slash (front behind : List Char) :
    namesOf (front ++ '/' :: behind) = namesOf front ++ namesOf behind := by
  rw [namesOf, Text.splitAll_append_cons (by simp), List.filter_append, namesOf, namesOf]

theorem namesOf_slash_cons (behind : List Char) : namesOf ('/' :: behind) = namesOf behind :=
  namesOf_append_slash [] behind

theorem namesOf_append_singleton_slash (front : List Char) :
    namesOf (front ++ ['/']) = namesOf front := by
  rw [namesOf_append_slash, namesOf_nil, List.append_nil]

theorem namesOf_of_not_mem (hslash : '/' ∉ name) (hne : name ≠ []) : namesOf name = [name] := by
  have hnone : ∀ c ∈ name, decide (c = '/') = false := by
    intro c hc
    have hne : c ≠ '/' := ne_of_mem_of_not_mem hc hslash
    simpa using hne
  rw [namesOf, Text.splitAll_of_none hnone, List.filter_cons_of_pos (by simpa using hne),
    List.filter_nil]

/-- Slashes at the end of a text, which is given backwards, count for nothing. -/
theorem namesOf_dropWhile (backwards : List Char) :
    namesOf (backwards.dropWhile (· = '/')).reverse = namesOf backwards.reverse := by
  induction backwards with
  | nil => rfl
  | cons c rest ih =>
      by_cases hc : c = '/'
      · subst hc
        rw [List.dropWhile_cons_of_pos (by simp), ih, List.reverse_cons,
          namesOf_append_singleton_slash]
      · rw [List.dropWhile_cons_of_neg (by simpa using hc)]

/-- The last name of a text, which is given backwards and does not end with a slash, and the names
in front of it. -/
theorem namesOf_takeWhile {backwards : List Char} (hne : backwards ≠ [])
    (hhead : backwards.head? ≠ some '/') :
    backwards.takeWhile (· ≠ '/') ≠ [] ∧ '/' ∉ backwards.takeWhile (· ≠ '/') ∧
      namesOf backwards.reverse =
        namesOf ((backwards.dropWhile (· ≠ '/')).drop 1).reverse ++
          [(backwards.takeWhile (· ≠ '/')).reverse] := by
  have hpart : backwards.takeWhile (· ≠ '/') ≠ [] := by
    cases backwards with
    | nil => exact absurd rfl hne
    | cons c rest =>
        have hc : c ≠ '/' := by simpa using hhead
        rw [List.takeWhile_cons_of_pos (by simpa using hc)]
        exact List.cons_ne_nil _ _
  have hslash : '/' ∉ backwards.takeWhile (· ≠ '/') := by
    intro hmem
    simpa using List.mem_takeWhile_imp hmem
  have hname : namesOf (backwards.takeWhile (· ≠ '/')).reverse =
      [(backwards.takeWhile (· ≠ '/')).reverse] :=
    namesOf_of_not_mem (by simpa using hslash) (by simpa using hpart)
  refine ⟨hpart, hslash, ?_⟩
  -- Forwards, the text is what stands in front of the last slash, the slash and the last name.
  have hcut := congrArg List.reverse
    (List.takeWhile_append_dropWhile (p := (· ≠ '/')) (l := backwards))
  rw [List.reverse_append] at hcut
  cases hrest : backwards.dropWhile (· ≠ '/') with
  | nil =>
      rw [hrest, List.reverse_nil, List.nil_append] at hcut
      rw [List.drop_nil, List.reverse_nil, namesOf_nil, List.nil_append, ← hname, hcut]
  | cons c rest =>
      have hc : c = '/' := by
        have hfirst := List.head?_dropWhile_not (fun d : Char => decide (d ≠ '/')) backwards
        rw [hrest] at hfirst
        simpa using hfirst
      subst hc
      rw [hrest, List.reverse_cons, List.append_assoc, List.singleton_append] at hcut
      rw [List.drop_one, List.tail_cons, ← hname, ← namesOf_append_slash, hcut]

end Texts

/-! ## Ordinary paths -/

namespace Path

variable {path above : Path}

/-- The names of a path. -/
def names (path : Path) : List (List Char) :=
  namesOf path.text

/-- A path is ordinary if no piece of it is one point or two points. -/
def IsOrdinary (path : Path) : Prop :=
  ∀ piece ∈ path.pieces, piece ≠ ['.'] ∧ piece ≠ ['.', '.']

instance (path : Path) : Decidable path.IsOrdinary :=
  inferInstanceAs (Decidable (∀ piece ∈ path.pieces, piece ≠ ['.'] ∧ piece ≠ ['.', '.']))

/-- Names of which none is one point or two points. -/
def ArePlain (names : List (List Char)) : Prop :=
  ∀ name ∈ names, name ≠ ['.'] ∧ name ≠ ['.', '.']

/-- A path is ordinary exactly where its names are plain ones. -/
theorem isOrdinary_iff : path.IsOrdinary ↔ ArePlain path.names := by
  constructor
  · intro h name hname
    exact h name (List.mem_filter.1 hname).1
  · intro h piece hpiece
    by_cases hempty : piece = []
    · subst hempty
      exact ⟨by decide, by decide⟩
    · exact h piece (List.mem_filter.2 ⟨hpiece, by simpa using hempty⟩)

/-- Of plain names, only the slashes at the end are trimmed. -/
theorem trimParts_of_arePlain {backwards : List Char} (h : ArePlain (namesOf backwards.reverse)) :
    trimParts backwards = backwards.dropWhile (· = '/') := by
  -- A point that is a part of its own would be a name, so only slashes are taken away.
  fun_induction trimParts backwards with
  | case1 => rfl
  | case2 => exact absurd rfl (h ['.'] (by decide)).1
  | case3 rest ih =>
      rw [List.reverse_cons, namesOf_append_singleton_slash] at h
      rw [ih h, List.dropWhile_cons_of_pos (by simp)]
  | case4 rest ih =>
      have hmem : ['.'] ∈ namesOf (('.' :: '/' :: rest).reverse) := by
        have hcut : ('.' :: '/' :: rest).reverse = rest.reverse ++ '/' :: ['.'] := by simp
        rw [hcut, namesOf_append_slash]
        exact List.mem_append_right _ (by decide)
      exact absurd rfl (h ['.'] hmem).1
  | case5 body hne hpoint hslash =>
      cases body with
      | nil => rfl
      | cons c rest =>
          have hc : c ≠ '/' := by
            rintro rfl
            exact hslash rest rfl
          rw [List.dropWhile_cons_of_neg (by simpa using hc)]

/-- What stands in front of the body of an ordinary path: the slash of the root, or nothing if the
body does not begin with one. -/
def FrontOf (front body : List Char) : Prop :=
  front = ['/'] ∨ front = [] ∧ body.head? ≠ some '/'

theorem FrontOf.ne_point {front body : List Char} (h : FrontOf front body) : front ≠ ['.'] := by
  rcases h with rfl | ⟨rfl, -⟩
  · decide
  · decide

/-- There are no names in front of a body. -/
theorem FrontOf.namesOf_append {front body : List Char} (h : FrontOf front body) (s : List Char) :
    namesOf (front ++ s) = namesOf s := by
  rcases h with rfl | ⟨rfl, -⟩
  · exact namesOf_slash_cons s
  · rfl

/-- What begins as the body does begins at the root if the body does. -/
theorem FrontOf.isAbsolute_append {front body start : List Char} (h : FrontOf front body)
    (hstart : start <+: body) :
    (Path.mk (front ++ start)).isAbsolute = (Path.mk (front ++ body)).isAbsolute := by
  rcases h with rfl | ⟨rfl, hbody⟩
  · rfl
  · obtain ⟨more, rfl⟩ := hstart
    cases start with
    | nil =>
        have habsolute : (Path.mk more).isAbsolute = false := by simpa [isAbsolute] using hbody
        exact habsolute.symm
    | cons c rest => rfl

/-- The text of an ordinary path is its front and its body. -/
theorem exists_body (h : path.IsOrdinary) :
    ∃ body, path = ⟨path.front ++ body⟩ ∧ path.reversedBody = body.reverse ∧
      FrontOf path.front body := by
  obtain ⟨text⟩ := path
  have hplain : ArePlain (namesOf text) := isOrdinary_iff.1 h
  have hpoint : ['.'] ∉ namesOf text := fun hmem => (hplain _ hmem).1 rfl
  unfold reversedBody front
  dsimp only
  split
  · rename_i body
    exact ⟨body, rfl, rfl, .inl rfl⟩
  · exact absurd (by decide) hpoint
  · rename_i rest
    have hcut : namesOf ('.' :: '/' :: rest) = namesOf ['.'] ++ namesOf rest :=
      namesOf_append_slash ['.'] rest
    rw [hcut] at hpoint
    exact absurd (List.mem_append_left _ (by decide)) hpoint
  · rename_i hslash _ _
    refine ⟨text, rfl, rfl, .inr ⟨rfl, ?_⟩⟩
    intro hhead
    obtain ⟨rest, rfl⟩ := List.head?_eq_some_iff.1 hhead
    exact hslash rest rfl

/-- What stands in front of the last name of a body, without the slashes at its end, begins as the
body does. -/
theorem beginning_of_lastPart {backwards body : List Char} (h : backwards <:+ body.reverse) :
    (((backwards.dropWhile (· ≠ '/')).drop 1).dropWhile (· = '/')).reverse <+: body := by
  have hsuffix : ((backwards.dropWhile (· ≠ '/')).drop 1).dropWhile (· = '/') <:+ body.reverse :=
    ((List.dropWhile_suffix _).trans (List.drop_suffix 1 _)).trans
      ((List.dropWhile_suffix _).trans h)
  rw [← List.reverse_prefix, List.reverse_reverse] at hsuffix
  exact hsuffix

/-- An ordinary path has no name in it at all, or it has a last name and a path above it with the
names in front of that one. -/
theorem names_of_ordinary (h : path.IsOrdinary) :
    (path.names = [] ∧ path.parent? = none ∧ path.name? = none) ∨
      ∃ above last, path.parent? = some above ∧ path.name? = some last ∧
        path.names = above.names ++ [last] ∧ above.isAbsolute = path.isAbsolute ∧
        last ≠ [] ∧ '/' ∉ last := by
  obtain ⟨body, hpath, hreversed, hfront⟩ := exists_body h
  have hnames : path.names = namesOf body := by
    rw [hpath, names]
    exact hfront.namesOf_append body
  have hplain : ArePlain (namesOf body) := by
    rw [← hnames]
    exact isOrdinary_iff.1 h
  have hpart : path.lastPart = ((body.reverse.dropWhile (· = '/')).takeWhile (· ≠ '/'),
      ((body.reverse.dropWhile (· = '/')).dropWhile (· ≠ '/')).drop 1) := by
    rw [lastPart, hreversed, trimParts_of_arePlain (by rwa [List.reverse_reverse])]
  have htrimmed := namesOf_dropWhile body.reverse
  rw [List.reverse_reverse] at htrimmed
  have hhead := List.head?_dropWhile_not (fun c : Char => decide (c = '/')) body.reverse
  have hbeginning := beginning_of_lastPart
    (List.dropWhile_suffix (fun c : Char => decide (c = '/')) (l := body.reverse))
  generalize body.reverse.dropWhile (· = '/') = backwards at hpart htrimmed hhead hbeginning
  by_cases hempty : backwards = []
  · -- The body has slashes only, and the front is no point, which would have a path above it.
    subst hempty
    refine .inl ⟨?_, ?_, ?_⟩
    · rw [hnames, ← htrimmed, List.reverse_nil, namesOf_nil]
    · simp [parent?, hpart, hfront.ne_point]
    · simp [name?, hpart]
  · have hslash : backwards.head? ≠ some '/' := by
      intro hslash
      rw [hslash] at hhead
      simp at hhead
    obtain ⟨hne, hlast, hcut⟩ := namesOf_takeWhile hempty hslash
    rw [htrimmed] at hcut
    generalize (backwards.dropWhile (· ≠ '/')).drop 1 = rest at hpart hcut hbeginning
    generalize backwards.takeWhile (· ≠ '/') = last at hpart hcut hne hlast
    have hlastPlain : last.reverse ≠ ['.', '.'] :=
      (hplain last.reverse (by rw [hcut]; exact List.mem_append_right _ (by simp))).2
    have hrestPlain : ArePlain (namesOf rest.reverse) := fun name hname =>
      hplain name (by rw [hcut]; exact List.mem_append_left _ hname)
    have hparent : path.parent? = some ⟨path.front ++ (rest.dropWhile (· = '/')).reverse⟩ := by
      rw [parent?, hpart, if_pos hne, trimParts_of_arePlain hrestPlain]
    have hname : path.name? = some last.reverse := by
      rw [name?, hpart]
      simp [hne, hlastPlain]
    refine .inr ⟨_, last.reverse, hparent, hname, ?_, ?_, by simpa using hne, by simpa using hlast⟩
    · rw [hnames, hcut, names, hfront.namesOf_append, namesOf_dropWhile]
    · rw [hfront.isAbsolute_append hbeginning, ← hpath]

/-- A name below a path is one name more. -/
theorem names_join {name : List Char} (hne : name ≠ []) (hslash : '/' ∉ name) :
    (above.join ⟨name⟩).names = above.names ++ [name] ∧
      (above.join ⟨name⟩).isAbsolute = above.isAbsolute := by
  have hhead : name.head? ≠ some '/' := fun hhead => hslash (List.mem_of_mem_head? hhead)
  have hbelow : ¬ (Path.mk name).isAbsolute = true := by simpa [isAbsolute] using hhead
  rw [join, if_neg hbelow]
  obtain ⟨text⟩ := above
  by_cases hempty : text = []
  · subst hempty
    simp [names, namesOf_of_not_mem hslash hne, isAbsolute, hhead]
  · by_cases hend : text.getLast? = some '/'
    · obtain ⟨front, rfl⟩ := List.getLast?_eq_some_iff.1 hend
      rw [if_pos (by simp)]
      constructor
      · have hcut : front ++ ['/'] ++ name = front ++ '/' :: name := by simp
        rw [names, names, hcut, namesOf_append_slash, namesOf_append_singleton_slash,
          namesOf_of_not_mem hslash hne]
      · cases front <;> rfl
    · rw [if_neg (by simp [hempty, hend])]
      constructor
      · rw [names, names, namesOf_append_slash, namesOf_of_not_mem hslash hne]
      · cases text with
        | nil => exact absurd rfl hempty
        | cons c rest => rfl

end Path

/-- The temporary file for a target with a last name takes the place of that name. -/
theorem names_temporary {path above : Path} {last : List Char} (hparent : path.parent? = some above)
    (hname : path.name? = some last) (hslash : '/' ∉ last) :
    (temporary path).names = above.names ++ ['.' :: last ++ ['.', 't', 'm', 'p']] ∧
      (temporary path).isAbsolute = above.isAbsolute := by
  rw [temporary, workPlace, hparent, hname]
  exact Path.names_join (List.cons_ne_nil _ _) (by simpa using hslash)

/-- The name of a temporary file is no point and no two points. -/
theorem plain_temporary_name (last : List Char) :
    '.' :: last ++ ['.', 't', 'm', 'p'] ≠ ['.'] ∧
      '.' :: last ++ ['.', 't', 'm', 'p'] ≠ ['.', '.'] := by
  constructor
  · intro hsame
    have hlength := congrArg List.length hsame
    simp at hlength
  · intro hsame
    have hlength := congrArg List.length hsame
    simp at hlength

end QueryBridge.Files
