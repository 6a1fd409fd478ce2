import Mathlib.Data.List.Induction
import QueryBridge.Proofs.Files.Names

/-!
# What operations leave of a tree

Looking a path up reads the tree at the locations that it passes and nowhere else. So a path leads
where it led before as long as the directories on its way are kept (`walk_of_keeps`), and finds what
it found as long as nothing changes at its own location and those in front of it (`walk_congr`).

A tree is grounded if everything stands in a directory. What is done elsewhere, and directories that
are made where nothing was, spare a location in such a tree (`Spares`): what stood there and in
front of it still does, and where nothing stood nothing does. A path to a spared location finds what
it found before, or nothing now and then (`Spares.find`). Making directories above a location
spares it (`spares_makeDirectoriesWith`), and leaves a grounded tree grounded
(`Grounded.makeDirectories`).
-/

set_option autoImplicit false

namespace QueryBridge.Files

namespace Tree

/-! ## Entries -/

section Entries

variable {tree : Tree} {place other : Location} {entry : Entry}

/-- The two places at the top are directories in every tree. -/
theorem get?_of_top (h : place = [] ∨ place = rootLocation) :
    tree.get? place = some .directory := by
  have htop : (place = [] || place = rootLocation) = true := by simpa using h
  rw [get?, if_pos htop]

theorem get?_of_not_top (h : ¬ (place = [] ∨ place = rootLocation)) :
    tree.get? place = tree.entries.lookup place := by
  have htop : ¬ (place = [] || place = rootLocation) = true := by simpa using h
  rw [get?, if_neg htop]

theorem lookup_filter_of_ne (entries : List (Location × Entry)) (h : other ≠ place) :
    (entries.filter (·.1 ≠ place)).lookup other = entries.lookup other := by
  induction entries with
  | nil => rfl
  | cons first rest ih =>
      obtain ⟨location, here⟩ := first
      by_cases hsame : location = place
      · subst hsame
        have hne : (other == location) = false := beq_eq_false_iff_ne.2 h
        rw [List.filter_cons_of_neg (by simp), ih, List.lookup_cons, hne]
      · rw [List.filter_cons_of_pos (by simpa using hsame), List.lookup_cons, List.lookup_cons, ih]

theorem get?_remove_of_ne (h : other ≠ place) :
    (tree.remove place).get? other = tree.get? other := by
  by_cases htop : other = [] ∨ other = rootLocation
  · rw [get?_of_top htop, get?_of_top htop]
  · rw [get?_of_not_top htop, get?_of_not_top htop]
    exact lookup_filter_of_ne tree.entries h

theorem get?_remove_self (h : tree.get? place ≠ some .directory) :
    (tree.remove place).get? place = none := by
  have htop : ¬ (place = [] ∨ place = rootLocation) := fun htop => h (get?_of_top htop)
  rw [get?_of_not_top htop, remove, List.lookup_eq_none_iff]
  intro first hfirst
  have hne : first.1 ≠ place := by simpa using (List.mem_filter.1 hfirst).2
  simpa using hne.symm

theorem get?_put_of_ne (h : other ≠ place) :
    (tree.put place entry).get? other = tree.get? other := by
  have hremoved : (tree.remove place).get? other = tree.get? other := get?_remove_of_ne h
  by_cases htop : other = [] ∨ other = rootLocation
  · rw [get?_of_top htop, get?_of_top htop]
  · have hne : (other == place) = false := beq_eq_false_iff_ne.2 h
    rw [← hremoved, get?_of_not_top htop, get?_of_not_top htop, put, List.lookup_cons, hne]

theorem get?_put_self (h : tree.get? place ≠ some .directory) :
    (tree.put place entry).get? place = some entry := by
  have htop : ¬ (place = [] ∨ place = rootLocation) := fun htop => h (get?_of_top htop)
  rw [get?_of_not_top htop, put, List.lookup_cons, beq_self_eq_true]

end Entries

/-! ## Walking -/

/-- All directories of a tree are directories of another. -/
def Keeps (tree after : Tree) : Prop :=
  ∀ place, tree.get? place = some .directory → after.get? place = some .directory

section Walking

variable {tree after : Tree} {place goal : Location}

theorem enter_congr (h : after.get? place = tree.get? place) (piece : List Char) :
    after.enter place piece = tree.enter place piece := by
  rw [enter, enter, h]

theorem directory_of_enter {piece : List Char} (h : tree.enter place piece = .ok goal) :
    tree.get? place = some .directory := by
  rw [enter] at h
  cases hplace : tree.get? place with
  | none =>
      rw [hplace] at h
      cases h
  | some entry =>
      cases entry with
      | directory => rfl
      | file octets =>
          rw [hplace] at h
          cases h

theorem walk_cons_of_enter {piece : List Char} {next : Location}
    (h : tree.enter place piece = .ok next) (rest : List (List Char)) :
    tree.walk place (piece :: rest) = tree.walk next rest := by
  rw [walk, h]

theorem exists_enter_of_walk {piece : List Char} {rest : List (List Char)}
    (h : tree.walk place (piece :: rest) = .ok goal) :
    ∃ next, tree.enter place piece = .ok next ∧ tree.walk next rest = .ok goal := by
  rw [walk] at h
  cases henter : tree.enter place piece with
  | error fault =>
      rw [henter] at h
      cases h
  | ok next =>
      rw [henter] at h
      exact ⟨next, rfl, h⟩

/-- A path leads to the same location as long as directories are kept. -/
theorem walk_of_keeps (hkeeps : Keeps tree after) {pieces : List (List Char)}
    (h : tree.walk place pieces = .ok goal) : after.walk place pieces = .ok goal := by
  induction pieces generalizing place with
  | nil => exact h
  | cons piece rest ih =>
      obtain ⟨next, henter, hrest⟩ := exists_enter_of_walk h
      have hplace := directory_of_enter henter
      rw [← enter_congr ((hkeeps place hplace).trans hplace.symm)] at henter
      rw [walk_cons_of_enter henter]
      exact ih hrest

theorem walk_append {first later : List (List Char)} {middle : Location}
    (h : tree.walk place first = .ok middle) :
    tree.walk place (first ++ later) = tree.walk middle later := by
  induction first generalizing place with
  | nil =>
      cases h
      rfl
  | cons piece rest ih =>
      obtain ⟨next, henter, hrest⟩ := exists_enter_of_walk h
      rw [List.cons_append, walk_cons_of_enter henter, ih hrest]

theorem exists_walk_of_append {first later : List (List Char)}
    (h : tree.walk place (first ++ later) = .ok goal) :
    ∃ middle, tree.walk place first = .ok middle ∧ tree.walk middle later = .ok goal := by
  induction first generalizing place with
  | nil => exact ⟨place, rfl, h⟩
  | cons piece rest ih =>
      obtain ⟨next, henter, hrest⟩ := exists_enter_of_walk h
      rw [walk_cons_of_enter henter]
      exact ih hrest

/-- An empty piece leads to the location that it is entered from. -/
theorem walk_of_append_empty {first : List (List Char)}
    (h : tree.walk place (first ++ [[]]) = .ok goal) : tree.walk place first = .ok goal := by
  obtain ⟨middle, hfirst, hlast⟩ := exists_walk_of_append h
  obtain ⟨next, henter, hnext⟩ := exists_enter_of_walk hlast
  rw [enter, directory_of_enter henter] at henter
  cases henter
  cases hnext
  exact hfirst

/-- The location that a piece leads to where it can be entered. -/
def stride (place : Location) (piece : List Char) : Location :=
  if piece = [] || piece = ['.'] then place
  else if piece = ['.', '.'] then (if place = rootLocation then place else place.dropLast)
  else place ++ [String.ofList piece]

theorem plainLocation_eq_foldl (path : Path) :
    plainLocation path = path.pieces.foldl stride (startOf path) := rfl

theorem eq_stride_of_enter {piece : List Char} (h : tree.enter place piece = .ok goal) :
    goal = stride place piece := by
  rw [enter, directory_of_enter h] at h
  dsimp only at h
  unfold stride
  split at h
  · rename_i hstay
    rw [if_pos hstay]
    cases h
    rfl
  · rename_i hstay
    rw [if_neg hstay]
    split at h
    · rename_i hup
      rw [if_pos hup]
      cases h
      rfl
    · rename_i hup
      rw [if_neg hup]
      split at h
      · cases h
      · cases h
        rfl

/-- A walk that succeeds ends where the pieces of the path lead by their names. -/
theorem eq_foldl_of_walk {pieces : List (List Char)} (h : tree.walk place pieces = .ok goal) :
    goal = pieces.foldl stride place := by
  induction pieces generalizing place with
  | nil =>
      cases h
      rfl
  | cons piece rest ih =>
      obtain ⟨next, henter, hrest⟩ := exists_enter_of_walk h
      rw [List.foldl_cons, ← eq_stride_of_enter henter]
      exact ih hrest

/-- Where all directories are kept, a path leads where it led. -/
theorem locate_of_keeps {path : Path} (hkeeps : Keeps tree after)
    (h : tree.locate path = .ok goal) : after.locate path = .ok goal := by
  rw [locate] at h ⊢
  split at h
  · cases h
  · exact walk_of_keeps hkeeps h

theorem find_eq_ok_iff {path : Path} {entry : Entry} :
    tree.find path = .ok entry ↔
      ∃ place, tree.locate path = .ok place ∧ tree.get? place = some entry := by
  rw [find]
  cases tree.locate path with
  | error fault => simp
  | ok place => cases h : tree.get? place <;> simp [h]

/-- A path that can be looked up leads where its text says. -/
theorem eq_plainLocation_of_locate {path : Path} (h : tree.locate path = .ok goal) :
    goal = plainLocation path := by
  rw [locate] at h
  split at h
  · cases h
  · exact eq_foldl_of_walk h

end Walking

/-! ## Ordinary paths -/

section Ordinary

variable {tree after : Tree} {place goal : Location} {path : Path}

theorem stride_of_plain {piece : List Char} (hplain : piece ≠ ['.'] ∧ piece ≠ ['.', '.'])
    (hne : piece ≠ []) : stride place piece = place ++ [String.ofList piece] := by
  simp [stride, hplain.1, hplain.2, hne]

/-- Plain pieces lead down, one name each, and empty ones nowhere. -/
theorem foldl_stride_of_plain {pieces : List (List Char)}
    (hplain : ∀ piece ∈ pieces, piece ≠ ['.'] ∧ piece ≠ ['.', '.']) (place : Location) :
    pieces.foldl stride place = place ++ (pieces.filter (· ≠ [])).map String.ofList := by
  induction pieces generalizing place with
  | nil => simp
  | cons piece rest ih =>
      have hrest := ih fun other hother => hplain other (List.mem_cons_of_mem piece hother)
      rw [List.foldl_cons, hrest]
      by_cases hne : piece = []
      · subst hne
        rfl
      · rw [stride_of_plain (hplain piece List.mem_cons_self) hne,
          List.filter_cons_of_pos (by simpa using hne), List.map_cons, List.append_assoc,
          List.singleton_append]

/-- The location of an ordinary path has its names behind the start of the path. -/
theorem plainLocation_of_isOrdinary (h : path.IsOrdinary) :
    plainLocation path = startOf path ++ path.names.map String.ofList := by
  rw [plainLocation_eq_foldl, foldl_stride_of_plain h]
  rfl

/-- Looking up pieces reads no location but those in front of the last one. -/
theorem walk_congr {pieces : List (List Char)}
    (hplain : ∀ piece ∈ pieces, piece ≠ ['.'] ∧ piece ≠ ['.', '.'])
    (hsame : ∀ other, other <+: pieces.foldl stride place → after.get? other = tree.get? other) :
    after.walk place pieces = tree.walk place pieces := by
  induction pieces generalizing place with
  | nil => rfl
  | cons piece rest ih =>
      have hplace : place <+: (piece :: rest).foldl stride place := by
        rw [foldl_stride_of_plain hplain]
        exact List.prefix_append place _
      rw [walk, walk, enter_congr (hsame place hplace)]
      cases henter : tree.enter place piece with
      | error fault => rfl
      | ok next =>
          have hnext := eq_stride_of_enter henter
          rw [List.foldl_cons, ← hnext] at hsame
          exact ih (fun other hother => hplain other (List.mem_cons_of_mem piece hother)) hsame

/-- An ordinary path finds what stands at its location, as long as nothing changes there and in
front of it. -/
theorem find_congr (hordinary : path.IsOrdinary)
    (hsame : ∀ other, other <+: plainLocation path → after.get? other = tree.get? other) :
    after.find path = tree.find path := by
  have hlocate : after.locate path = tree.locate path := by
    rw [locate, locate, walk_congr hordinary hsame]
  rw [find, find, hlocate]
  cases hplace : tree.locate path with
  | error fault => rfl
  | ok place =>
      dsimp only
      rw [eq_plainLocation_of_locate hplace, hsame _ (List.prefix_refl _)]

end Ordinary

/-! ## Spared locations -/

/-- Everything in a tree stands in a directory. -/
def Grounded (tree : Tree) : Prop :=
  ∀ place, tree.get? place ≠ none → tree.get? place.dropLast = some .directory

/-- A location and what is in front of it are spared by a change of the tree: everything there
stays, and nothing comes to stand at the location itself. -/
structure Spares (goal : Location) (tree after : Tree) : Prop where
  kept : ∀ place, place <+: goal → tree.get? place ≠ none → after.get? place = tree.get? place
  absent : tree.get? goal = none → after.get? goal = none

section Spared

variable {tree middle after : Tree} {place goal : Location} {path : Path}

/-- Where every entry is in a directory, all places above an entry are there. -/
theorem Grounded.ne_none_of_front (hgrounded : tree.Grounded) (hlead : place <+: goal)
    (h : tree.get? goal ≠ none) : tree.get? place ≠ none := by
  obtain ⟨more, rfl⟩ := hlead
  induction more using List.reverseRecOn with
  | nil => simpa using h
  | append_singleton front last ih =>
      have habove := hgrounded _ h
      rw [← List.append_assoc, List.dropLast_concat] at habove
      exact ih (by simp [habove])

theorem Spares.refl (goal : Location) (tree : Tree) : Spares goal tree tree :=
  ⟨fun _ _ _ => rfl, id⟩

theorem Spares.trans (hfirst : Spares goal tree middle) (hlater : Spares goal middle after) :
    Spares goal tree after where
  kept place hlead h := by
    have hmiddle := hfirst.kept place hlead h
    rw [hlater.kept place hlead (by rwa [hmiddle]), hmiddle]
  absent h := hlater.absent (hfirst.absent h)

/-- What is put elsewhere, either where nothing was or not in front of a location, spares it. -/
theorem spares_put {entry : Entry} (hne : place ≠ goal)
    (hfree : tree.get? place = none ∨ ¬ place <+: goal) :
    Spares goal tree (tree.put place entry) where
  kept other hlead h := by
    have hother : other ≠ place := by
      rintro rfl
      rcases hfree with hfree | hfree
      · exact h hfree
      · exact hfree hlead
    exact get?_put_of_ne hother
  absent h := by rwa [get?_put_of_ne hne.symm]

theorem has_eq_false_of_get? (hnone : tree.get? (plainLocation path) = none) :
    tree.has path = false := by
  rw [has, find]
  cases hlocate : tree.locate path with
  | error fault => rfl
  | ok place => simp [eq_plainLocation_of_locate hlocate, hnone]

/-- A path to a spared location finds what it found before, or found nothing and finds nothing. -/
theorem Spares.find (hspares : Spares (plainLocation path) tree after)
    (hgrounded : tree.Grounded) (hordinary : path.IsOrdinary) :
    after.find path = tree.find path ∨ after.has path = false ∧ tree.has path = false := by
  by_cases hnone : tree.get? (plainLocation path) = none
  · -- The lookups may end in different faults, but neither finds anything.
    exact .inr ⟨has_eq_false_of_get? (hspares.absent hnone), has_eq_false_of_get? hnone⟩
  · -- In a grounded tree something stands everywhere on the way, so the lookups are the same.
    left
    exact find_congr hordinary fun other hlead =>
      hspares.kept other hlead (hgrounded.ne_none_of_front hlead hnone)

/-! ## Making directories -/

/-- What making a directory does where it succeeds. -/
theorem cases_of_makeDirectory (h : tree.makeDirectory path = .ok after) :
    ∃ place, tree.locate path = .ok place ∧ tree.get? place = none ∧
      after = tree.put place .directory := by
  rw [makeDirectory] at h
  cases hlocate : tree.locate path with
  | error fault =>
      rw [hlocate] at h
      cases h
  | ok place =>
      rw [hlocate] at h
      dsimp only at h
      split at h
      · cases h
      · rename_i hnone
        cases h
        exact ⟨place, rfl, by simpa using hnone, rfl⟩

/-- A directory that is settled was there already, or is made. -/
theorem cases_of_settleDirectory (h : tree.settleDirectory path = .ok after) :
    after = tree ∨ tree.makeDirectory path = .ok after := by
  rw [settleDirectory] at h
  split at h
  · rename_i hmake
    cases h
    exact .inr hmake
  · split at h
    · cases h
      exact .inl rfl
    · cases h

/-- Making a directory spares every other place. -/
theorem spares_settleDirectory (h : tree.settleDirectory path = .ok after)
    (hne : plainLocation path ≠ goal) : Spares goal tree after := by
  rcases cases_of_settleDirectory h with rfl | hmake
  · exact Spares.refl goal after
  · obtain ⟨place, hplace, hnone, rfl⟩ := cases_of_makeDirectory hmake
    rw [← eq_plainLocation_of_locate hplace] at hne
    exact spares_put hne (.inl hnone)

/-- The path above an ordinary path is ordinary, and its location is in front of the other's. -/
theorem plainLocation_above {above : Path} (hordinary : path.IsOrdinary)
    (hparent : path.parent? = some above) :
    above.IsOrdinary ∧
      ∃ last : List Char, path.name? = some last ∧ last ≠ [] ∧ '/' ∉ last ∧
        startOf above = startOf path ∧
        plainLocation path = plainLocation above ++ [String.ofList last] := by
  rcases Path.names_of_ordinary hordinary with ⟨-, hnone, -⟩ | ⟨other, last, hsome, hname, hnames,
    habsolute, hne, hslash⟩
  · exact absurd (hnone.symm.trans hparent) (by simp)
  · obtain rfl : other = above := Option.some_inj.1 (hsome.symm.trans hparent)
    have habove : other.IsOrdinary := by
      rw [Path.isOrdinary_iff] at hordinary ⊢
      exact fun name hmem => hordinary name (by rw [hnames]; exact List.mem_append_left _ hmem)
    have hstart : startOf other = startOf path := by rw [startOf, startOf, habsolute]
    refine ⟨habove, last, hname, hne, hslash, hstart, ?_⟩
    rw [plainLocation_of_isOrdinary hordinary, plainLocation_of_isOrdinary habove, hnames, hstart,
      List.map_append, List.append_assoc]
    rfl

/-- What each step of making directories does to a tree, all of them together do. -/
theorem makeDirectoriesWith_induct {P : Path → Prop} {R : Tree → Tree → Prop}
    (hrefl : ∀ tree, R tree tree)
    (htrans : ∀ first second third, R first second → R second third → R first third)
    (habove : ∀ path above, P path → path.parent? = some above → P above)
    (hstep : ∀ tree path after, P path → tree.settleDirectory path = .ok after → R tree after)
    (fuel : Nat) (tree : Tree) (hpath : P path) :
    R tree (makeDirectoriesWith fuel tree path).1 := by
  induction fuel generalizing tree path with
  | zero => exact hrefl tree
  | succ fuel ih =>
      rw [makeDirectoriesWith]
      split
      · exact hrefl tree
      · split
        · rename_i made hmade
          exact hstep tree path made hpath hmade
        · split
          · exact hrefl tree
          · rename_i above hparent
            -- What is made above stays, whether or not the last step succeeds.
            have hmade := ih tree (habove path above hpath hparent)
            split
            · rename_i made fault hrun
              rwa [hrun] at hmade
            · rename_i made hrun
              rw [hrun] at hmade
              split
              · rename_i last hlast
                exact htrans tree made last hmade (hstep made path last hpath hlast)
              · exact hmade
        · exact hrefl tree

/-- Making the directories above a location spares it, also if that fails half way. -/
theorem spares_makeDirectoriesWith (fuel : Nat) (tree : Tree) (hordinary : path.IsOrdinary)
    (hshort : (plainLocation path).length < goal.length) :
    Spares goal tree (makeDirectoriesWith fuel tree path).1 := by
  refine makeDirectoriesWith_induct
    (P := fun path => path.IsOrdinary ∧ (plainLocation path).length < goal.length)
    (R := Spares goal) (Spares.refl goal) (fun _ _ _ => Spares.trans) ?_ ?_ fuel tree
    ⟨hordinary, hshort⟩
  · rintro path above ⟨hordinary, hshort⟩ hparent
    obtain ⟨habove, last, -, -, -, -, hlocation⟩ := plainLocation_above hordinary hparent
    rw [hlocation, List.length_append, List.length_singleton] at hshort
    exact ⟨habove, Nat.lt_of_succ_lt hshort⟩
  · rintro tree path after ⟨-, hshort⟩ hmade
    exact spares_settleDirectory hmade fun hsame => absurd (congrArg List.length hsame) hshort.ne

end Spared

/-! ## Trees stay grounded -/

section Grounding

variable {tree after : Tree} {place goal : Location} {path : Path} {entry : Entry}

/-- The tree with nothing in it is grounded. -/
theorem grounded_empty : Grounded {} := by
  intro place h
  by_cases htop : place = [] ∨ place = rootLocation
  · rcases htop with rfl | rfl <;> exact get?_of_top (.inl rfl)
  · rw [get?_of_not_top htop] at h
    exact absurd rfl h

/-- A tree stays grounded if something comes to stand in a directory, and in place of none. -/
theorem Grounded.put (hgrounded : tree.Grounded)
    (habove : tree.get? place.dropLast = some .directory)
    (hfree : tree.get? place ≠ some .directory) : (tree.put place entry).Grounded := by
  intro other h
  have hdirectory : tree.get? other.dropLast = some .directory := by
    by_cases hsame : other = place
    · rwa [hsame]
    · rw [get?_put_of_ne hsame] at h
      exact hgrounded other h
  -- What is replaced is no directory, so nothing stands in it.
  have hne : other.dropLast ≠ place := fun hsame => hfree (hsame ▸ hdirectory)
  rw [get?_put_of_ne hne, hdirectory]

theorem Grounded.remove (hgrounded : tree.Grounded) (hfree : tree.get? place ≠ some .directory) :
    (tree.remove place).Grounded := by
  intro other h
  have hother : other ≠ place := by
    rintro rfl
    exact h (get?_remove_self hfree)
  rw [get?_remove_of_ne hother] at h
  have hdirectory := hgrounded other h
  have hne : other.dropLast ≠ place := fun hsame => hfree (hsame ▸ hdirectory)
  rw [get?_remove_of_ne hne, hdirectory]

theorem Grounded.above_of_enter (hgrounded : tree.Grounded) {piece : List Char}
    (h : tree.enter place piece = .ok goal) : tree.get? goal.dropLast = some .directory := by
  have hplace := directory_of_enter h
  have habove := hgrounded place (by simp [hplace])
  rw [eq_stride_of_enter h, stride]
  split
  · exact habove
  · split
    · split
      · exact habove
      · exact hgrounded place.dropLast (by simp [habove])
    · rw [List.dropLast_concat, hplace]

/-- Where a walk ends, the place above is a directory. -/
theorem Grounded.above_of_walk (hgrounded : tree.Grounded) {pieces : List (List Char)}
    (hplace : tree.get? place.dropLast = some .directory) (h : tree.walk place pieces = .ok goal) :
    tree.get? goal.dropLast = some .directory := by
  induction pieces generalizing place with
  | nil =>
      cases h
      exact hplace
  | cons piece rest ih =>
      obtain ⟨next, henter, hrest⟩ := exists_enter_of_walk h
      exact ih (hgrounded.above_of_enter henter) hrest

/-- A path that can be looked up leads to a location in a directory. -/
theorem Grounded.above_of_locate (hgrounded : tree.Grounded) (h : tree.locate path = .ok goal) :
    tree.get? goal.dropLast = some .directory := by
  have hstart : tree.get? (startOf path).dropLast = some .directory := by
    rw [startOf]
    split <;> exact get?_of_top (.inl rfl)
  rw [locate] at h
  split at h
  · cases h
  · exact hgrounded.above_of_walk hstart h

theorem Grounded.settleDirectory (hgrounded : tree.Grounded)
    (h : tree.settleDirectory path = .ok after) : after.Grounded := by
  rcases cases_of_settleDirectory h with rfl | hmake
  · exact hgrounded
  · obtain ⟨place, hplace, hnone, rfl⟩ := cases_of_makeDirectory hmake
    exact hgrounded.put (hgrounded.above_of_locate hplace) (by simp [hnone])

/-- A tree in which directories are made stays grounded, also if that fails half way. -/
theorem Grounded.makeDirectories (hgrounded : tree.Grounded) (path : Path) :
    (tree.makeDirectories path).1.Grounded := by
  refine makeDirectoriesWith_induct (P := fun _ => True)
    (R := fun tree after => tree.Grounded → after.Grounded) ?_ ?_ ?_ ?_ _ tree trivial hgrounded
  · exact fun _ => id
  · exact fun _ _ _ hfirst hlater h => hlater (hfirst h)
  · exact fun _ _ _ _ => trivial
  · exact fun _ _ _ _ hmade h => h.settleDirectory hmade

end Grounding

end Tree

end QueryBridge.Files
