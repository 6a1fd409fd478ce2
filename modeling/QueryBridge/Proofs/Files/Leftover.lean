import QueryBridge.Proofs.Files.AllOrNothing

/-!
# What a failed replacement leaves behind

A replacement fails in one of two ways (`FailsWith`). If the temporary file cannot be written, the
tree is what it was. If the temporary file cannot be moved, it stays where it was written, and what
stood there before is lost. So the tree is what it was before a failure exactly where nothing was
written, or where just these contents stood in the temporary file already (`restored_iff`);
everywhere else it is the same.

What keeps a file that was written from being moved to an ordinary path can be read off the path and
its target (`obstacle?`): the directory of the path is there, since the temporary file is in it, and
its last name is short enough, since the name of the temporary file is longer (`destination_eq`).
Above all it is a directory at the target. The main result is `failed_replacement_leaves_temporary`.
-/

set_option autoImplicit false

namespace QueryBridge.Files

/-! ## The last of chosen elements -/

section Lists

variable {α : Type} {p : α → Bool}

/-- What is last among the elements that count is found from the end by dropping those that do
not. -/
theorem exists_dropWhile_reverse {front : List α} {last : α} :
    ∀ {l : List α}, l.filter p = front ++ [last] →
      ∃ more, l.reverse.dropWhile (fun a => !p a) = last :: more ∧
        more.reverse.filter p = front := by
  intro l
  induction l using List.reverseRecOn with
  | nil =>
      intro h
      simp at h
  | append_singleton l a ih =>
      intro h
      rw [List.filter_append] at h
      rw [List.reverse_append, List.reverse_singleton, List.singleton_append]
      by_cases ha : p a = true
      · rw [List.filter_cons_of_pos ha, List.filter_nil] at h
        obtain ⟨rfl, hlast⟩ := List.append_inj' h rfl
        obtain rfl := List.singleton_inj.1 hlast
        exact ⟨l.reverse, List.dropWhile_cons_of_neg (by simp [ha]), by rw [List.reverse_reverse]⟩
      · rw [List.filter_cons_of_neg ha, List.filter_nil, List.append_nil] at h
        rw [List.dropWhile_cons_of_pos (by simp [ha])]
        exact ih h

end Lists

namespace Tree

/-! ## Walking along names -/

section Names

variable {tree : Tree} {place goal : Location} {pieces : List (List Char)}

theorem eq_of_enter_nil (h : tree.enter place [] = .ok goal) : goal = place := by
  rw [enter, directory_of_enter h] at h
  cases h
  rfl

/-- Empty pieces can be left out of a walk. -/
theorem walk_names (h : tree.walk place pieces = .ok goal) :
    tree.walk place (pieces.filter (· ≠ [])) = .ok goal := by
  induction pieces generalizing place with
  | nil => exact h
  | cons piece rest ih =>
      obtain ⟨next, henter, hrest⟩ := exists_enter_of_walk h
      by_cases hempty : piece = []
      · subst hempty
        obtain rfl := eq_of_enter_nil henter
        rw [List.filter_cons_of_neg (by simp)]
        exact ih hrest
      · rw [List.filter_cons_of_pos (by simpa using hempty), walk_cons_of_enter henter]
        exact ih hrest

/-- A walk that ends in a directory begins in one. -/
theorem directory_of_walk (h : tree.walk place pieces = .ok goal)
    (hgoal : tree.get? goal = some .directory) : tree.get? place = some .directory := by
  cases pieces with
  | nil =>
      cases h
      exact hgoal
  | cons piece rest =>
      obtain ⟨next, henter, -⟩ := exists_enter_of_walk h
      exact directory_of_enter henter

theorem enter_nil (h : tree.get? place = some .directory) : tree.enter place [] = .ok place := by
  rw [enter, h]
  rfl

/-- Empty pieces can be put into a walk to a directory. -/
theorem walk_of_names (hgoal : tree.get? goal = some .directory)
    (h : tree.walk place (pieces.filter (· ≠ [])) = .ok goal) :
    tree.walk place pieces = .ok goal := by
  induction pieces generalizing place with
  | nil => exact h
  | cons piece rest ih =>
      by_cases hempty : piece = []
      · subst hempty
        rw [List.filter_cons_of_neg (by simp)] at h
        rw [walk_cons_of_enter (enter_nil (directory_of_walk h hgoal))]
        exact ih h
      · rw [List.filter_cons_of_pos (by simpa using hempty)] at h
        obtain ⟨next, henter, hrest⟩ := exists_enter_of_walk h
        rw [walk_cons_of_enter henter]
        exact ih hrest

theorem octetLength_append (s t : List Char) :
    octetLength (s ++ t) = octetLength s + octetLength t := by
  rw [octetLength, Text.Utf8.encode, List.flatMap_append, List.length_append]
  rfl

/-- A piece that can be entered below a directory leads to a location of its own if it is a plain
name. -/
theorem enter_eq_ok_iff {piece : List Char} (hplain : piece ≠ ['.'] ∧ piece ≠ ['.', '.'])
    (hne : piece ≠ []) :
    tree.enter place piece = .ok goal ↔
      tree.get? place = some .directory ∧ octetLength piece ≤ maxName ∧
        goal = place ++ [String.ofList piece] := by
  constructor
  · intro h
    have hdirectory := directory_of_enter h
    rw [enter, hdirectory] at h
    simp only [hplain.1, hplain.2, hne, decide_false, Bool.or_false, Bool.false_eq_true,
      if_false] at h
    split at h
    · cases h
    · rename_i hshort
      cases h
      exact ⟨hdirectory, Nat.le_of_not_lt hshort, rfl⟩
  · rintro ⟨hdirectory, hshort, rfl⟩
    rw [enter, hdirectory]
    simp [hplain.1, hplain.2, hne, Nat.not_lt.2 hshort]

end Names

end Tree

/-! ## What keeps a file from being moved -/

/-- Why a file beside an ordinary path cannot be moved to it. -/
def obstacle? (tree : Tree) (path : Path) : Option Fault :=
  match Tree.checkPath path with
  | .error fault => some fault
  | .ok () =>
    if path.names = [] then some .busy
    else if (Tree.target path).2 then some .notDirectory
    else if tree.get? (Tree.plainLocation path) = some .directory then some .isDirectory
    else none

section Obstacles

variable {tree : Tree} {path : Path} {work : Location}

/-- The pieces of a path behind its last name are empty. -/
theorem exists_dropWhile_pieces {front : List (List Char)} {last : List Char}
    (h : path.names = front ++ [last]) :
    ∃ more, path.pieces.reverse.dropWhile (· = []) = last :: more ∧
      more.reverse.filter (· ≠ []) = front := by
  have hempty : (fun piece : List Char => !decide (piece ≠ [])) =
      fun piece => decide (piece = []) := by
    funext piece
    simp
  rw [← hempty]
  exact exists_dropWhile_reverse h

theorem dropWhile_pieces_of_names_eq_nil (h : path.names = []) :
    path.pieces.reverse.dropWhile (· = []) = [] := by
  rw [List.dropWhile_eq_nil_iff]
  intro piece hpiece
  have hnone := List.filter_eq_nil_iff.1 h piece (List.mem_reverse.1 hpiece)
  simpa using hnone

/-- Where the temporary file for a path with a last name can be located, the directory of the path
is there, and the last name is short enough. -/
theorem walk_above_of_locate {above : Path} {last : List Char} (hordinary : path.IsOrdinary)
    (hparent : path.parent? = some above) (hname : path.name? = some last) (hslash : '/' ∉ last)
    (hnames : path.names = above.names ++ [last]) (habsolute : above.isAbsolute = path.isAbsolute)
    (h : tree.locate (temporary path) = .ok work) :
    ∃ place, tree.walk (Tree.startOf path) above.names = .ok place ∧
      tree.get? place = some .directory ∧ Tree.octetLength last ≤ Tree.maxName ∧
      place ++ [String.ofList last] = Tree.plainLocation path := by
  obtain ⟨htemporary, hstart⟩ := names_temporary hparent hname hslash
  have hwalk : tree.walk (Tree.startOf path) (temporary path).names = .ok work := by
    rw [Tree.locate] at h
    split at h
    · cases h
    · have hnamed := Tree.walk_names h
      rwa [Tree.startOf, hstart, habsolute] at hnamed
  -- The walk to the temporary file goes through the directory of the path.
  rw [htemporary] at hwalk
  obtain ⟨place, hplace, hlast⟩ := Tree.exists_walk_of_append hwalk
  obtain ⟨next, henter, -⟩ := Tree.exists_enter_of_walk hlast
  obtain ⟨hdirectory, hshort, -⟩ :=
    (Tree.enter_eq_ok_iff (plain_temporary_name last) (List.cons_ne_nil _ _)).1 henter
  refine ⟨place, hplace, hdirectory, ?_, ?_⟩
  · -- The name of the temporary file is longer than the one of the target.
    have hlength : Tree.octetLength ('.' :: last ++ ['.', 't', 'm', 'p']) =
        Tree.octetLength ['.'] + Tree.octetLength last + Tree.octetLength ['.', 't', 'm', 'p'] := by
      rw [← Tree.octetLength_append, ← Tree.octetLength_append]
      rfl
    omega
  · have hplain : ∀ name ∈ above.names, name ≠ ['.'] ∧ name ≠ ['.', '.'] := by
      intro name hmem
      apply Path.isOrdinary_iff.1 hordinary
      rw [hnames]
      exact List.mem_append_left _ hmem
    have hnonempty : above.names.filter (· ≠ []) = above.names := by
      rw [Path.names, namesOf, List.filter_filter]
      simp
    rw [Tree.eq_foldl_of_walk hplace, Tree.foldl_stride_of_plain hplain, hnonempty,
      Tree.plainLocation_of_isOrdinary hordinary, hnames, List.map_append, List.map_singleton,
      List.append_assoc]

/-- A file whose temporary place can be located goes to the location of an ordinary path, unless
there is an obstacle. -/
theorem destination_eq (hordinary : path.IsOrdinary) (h : tree.locate (temporary path) = .ok work) :
    tree.destination path =
      (obstacle? tree path).elim (.ok (Tree.plainLocation path)) .error := by
  rw [Tree.destination, obstacle?]
  cases hcheck : Tree.checkPath path with
  | error fault => rfl
  | ok _ =>
      dsimp only
      rcases Path.names_of_ordinary hordinary with ⟨hnames, -, -⟩ | hnamed
      · -- Without a name the path leads to where it starts.
        have hbackwards := dropWhile_pieces_of_names_eq_nil hnames
        have htarget : Tree.target path = ([], (Tree.target path).2) := by
          rw [Tree.target, hbackwards]
          rfl
        have hstart : tree.get? (Tree.startOf path) = some .directory := by
          rw [Tree.startOf]
          split
          · exact Tree.get?_of_top (.inr rfl)
          · exact Tree.get?_of_top (.inl rfl)
        rw [htarget, hbackwards, if_pos hnames]
        simp only [List.drop_nil, List.reverse_nil, List.nil_append]
        rw [Tree.walk_cons_of_enter (Tree.enter_nil hstart)]
        rfl
      · obtain ⟨above, last, hparent, hname, hnames, habsolute, hne, hslash⟩ := hnamed
        obtain ⟨place, hwalk, hdirectory, hshort, hlocation⟩ :=
          walk_above_of_locate hordinary hparent hname hslash hnames habsolute h
        obtain ⟨more, hbackwards, hfront⟩ := exists_dropWhile_pieces hnames
        have htarget : Tree.target path = (last, (Tree.target path).2) := by
          rw [Tree.target, hbackwards]
          rfl
        have hplain : last ≠ ['.'] ∧ last ≠ ['.', '.'] := by
          apply Path.isOrdinary_iff.1 hordinary
          rw [hnames]
          exact List.mem_append_right _ List.mem_cons_self
        have habove : tree.walk (Tree.startOf path) (more.reverse ++ [[]]) = .ok place := by
          apply Tree.walk_of_names hdirectory
          rw [List.filter_append, hfront]
          simpa using hwalk
        have henter := (Tree.enter_eq_ok_iff hplain hne).2 ⟨hdirectory, hshort, rfl⟩
        have hnone : path.names ≠ [] := by
          rw [hnames]
          exact List.append_ne_nil_of_right_ne_nil _ (List.cons_ne_nil _ _)
        rw [htarget, hbackwards, if_neg hnone, List.drop_one, List.tail_cons, habove]
        dsimp only
        rw [if_neg (by simp [hne, hplain]), henter]
        dsimp only
        rw [hlocation]
        split
        · rfl
        · split
          · rfl
          · rfl

end Obstacles

/-! ## Failures -/

/-- How a replacement fails: the tree that it leaves, and its report. -/
inductive FailsWith (tree : Tree) (path : Path) (octets : List UInt8) : Tree → Report → Prop
  | notWritten {fault : Fault} (hwrite : tree.write (temporary path) octets = .error fault) :
      FailsWith tree path octets tree (notStaged path fault.message)
  | notMoved {staged : Tree} {fault : Fault}
      (hwrite : tree.write (temporary path) octets = .ok staged)
      (hmove : staged.move (temporary path) path = .error fault) :
      FailsWith tree path octets staged (notCommitted path fault.message)

/-- What a failed replacement leaves of a tree. -/
structure LeavesBehind (tree : Tree) (path : Path) (octets : List UInt8) (after : Tree) : Prop where
  /-- Only the temporary file may be another. -/
  elsewhere : ∀ place, place ≠ Tree.plainLocation (temporary path) →
    after.get? place = tree.get? place
  /-- Where the temporary file cannot be written, the tree is the very same. -/
  untouched : ∀ fault, tree.write (temporary path) octets = .error fault → after = tree
  /-- Where the temporary file was written, it stays, in place of what stood there. -/
  kept : ∀ staged, tree.write (temporary path) octets = .ok staged →
    after = staged ∧ after.get? (Tree.plainLocation (temporary path)) = some (.file octets)
  /-- So nothing is left behind exactly where nothing was written, or nothing new. -/
  restored_iff : (∀ place, after.get? place = tree.get? place) ↔
    (∃ fault, tree.write (temporary path) octets = .error fault) ∨
      tree.get? (Tree.plainLocation (temporary path)) = some (.file octets)

section Failures

variable {tree staged after : Tree} {path : Path} {octets : List UInt8} {report : Report}

/-- If the temporary file cannot be written, the replacement ends there with the tree as it was. -/
theorem replace_of_write_error {fault : Fault}
    (h : tree.write (temporary path) octets = .error fault) :
    replace tree path octets = (tree, .error (notStaged path fault.message)) := by
  rw [replace, stage, h]

theorem replace_of_write (h : tree.write (temporary path) octets = .ok staged) :
    replace tree path octets = commit staged path := by
  rw [replace, stage, h]

/-- The two ways to fail are the only ones. -/
theorem failsWith_iff :
    replace tree path octets = (after, .error report) ↔
      FailsWith tree path octets after report := by
  constructor
  · intro h
    cases hwrite : tree.write (temporary path) octets with
    | error fault =>
        rw [replace_of_write_error hwrite] at h
        cases h
        exact .notWritten hwrite
    | ok staged =>
        rw [replace_of_write hwrite, commit] at h
        cases hmove : staged.move (temporary path) path with
        | error fault =>
            rw [hmove] at h
            cases h
            exact .notMoved hwrite hmove
        | ok moved =>
            rw [hmove] at h
            cases h
  · rintro (hwrite | ⟨hwrite, hmove⟩)
    · exact replace_of_write_error hwrite
    · rw [replace_of_write hwrite, commit, hmove]

/-- The temporary file holds what was written to it. -/
theorem get?_of_write (h : tree.write (temporary path) octets = .ok staged) :
    staged.get? (Tree.plainLocation (temporary path)) = some (.file octets) := by
  obtain ⟨work, hwork, hfree, rfl⟩ := Tree.cases_of_write h
  rw [← Tree.eq_plainLocation_of_locate hwork]
  exact Tree.get?_put_self hfree

/-- What a failure leaves behind is the temporary file, where it was written, and nothing else. -/
theorem FailsWith.leavesBehind (h : FailsWith tree path octets after report) :
    LeavesBehind tree path octets after := by
  have halike := (beforeMove_of_replace_error (failsWith_iff.2 h)).alike
  have helsewhere : ∀ place, place ≠ Tree.plainLocation (temporary path) →
      after.get? place = tree.get? place := by
    intro place hplace
    exact halike.same place (by simpa using hplace)
  -- The tree is as it was, or has the new contents in the temporary file.
  cases h with
  | notWritten hwrite =>
      refine ⟨helsewhere, fun _ _ => rfl, ?_, ?_⟩
      · intro staged hok
        rw [hwrite] at hok
        cases hok
      · exact ⟨fun _ => .inl ⟨_, hwrite⟩, fun _ _ => rfl⟩
  | notMoved hwrite hmove =>
      have hkept := get?_of_write hwrite
      refine ⟨helsewhere, ?_, ?_, ?_⟩
      · intro fault herror
        rw [hwrite] at herror
        cases herror
      · intro staged hok
        obtain rfl := Except.ok.inj (hwrite.symm.trans hok)
        exact ⟨rfl, hkept⟩
      · constructor
        · intro hsame
          right
          rw [← hsame, hkept]
        · rintro (⟨fault, herror⟩ | hbefore) place
          · rw [hwrite] at herror
            cases herror
          · by_cases hplace : place = Tree.plainLocation (temporary path)
            · rw [hplace, hkept, hbefore]
            · exact helsewhere place hplace

/-- What stands at an ordinary path is no obstacle of another kind once the temporary file is
written. -/
theorem obstacle?_of_write (hordinary : path.IsOrdinary)
    (h : tree.write (temporary path) octets = .ok staged) :
    obstacle? staged path = obstacle? tree path := by
  obtain ⟨work, hwork, -, rfl⟩ := Tree.cases_of_write h
  have hne : Tree.plainLocation path ≠ work := by
    rw [Tree.eq_plainLocation_of_locate hwork]
    exact (temporary_ne hordinary).symm
  rw [obstacle?, obstacle?, Tree.get?_put_of_ne hne]

/-- A temporary file that was written is moved unless there is an obstacle. -/
theorem replace_snd_of_write (hordinary : path.IsOrdinary)
    (h : tree.write (temporary path) octets = .ok staged) :
    (replace tree path octets).2 =
      (obstacle? tree path).elim (.ok ()) fun fault =>
        .error (notCommitted path fault.message) := by
  rw [replace_of_write h, ← obstacle?_of_write hordinary h]
  obtain ⟨work, hwork, hfree, rfl⟩ := Tree.cases_of_write h
  have hlocate : (tree.put work (.file octets)).locate (temporary path) = .ok work :=
    Tree.locate_of_keeps (Tree.keeps_put hfree) hwork
  rw [commit, Tree.move, hlocate, destination_eq hordinary hlocate]
  cases obstacle? (tree.put work (.file octets)) path with
  | some fault => rfl
  | none =>
      simp only [Option.elim_none, Tree.get?_put_self hfree]

end Failures

/-- A replacement that fails leaves the temporary file behind if it was written, and touches nothing
else. So the tree is as it was before exactly where the temporary file could not be written or had
just these contents already. For an ordinary path, a temporary file that was written is left behind
where there is an obstacle, with a report that says which, and is moved otherwise. -/
theorem failed_replacement_leaves_temporary (tree : Tree) (path : Path) (octets : List UInt8) :
    (∀ after report, replace tree path octets = (after, .error report) →
      FailsWith tree path octets after report ∧ LeavesBehind tree path octets after) ∧
    (path.IsOrdinary → ∀ staged, tree.write (temporary path) octets = .ok staged →
      (replace tree path octets).2 =
        (obstacle? tree path).elim (.ok ()) fun fault =>
          .error (notCommitted path fault.message)) := by
  constructor
  · intro after report h
    have hfails := failsWith_iff.1 h
    exact ⟨hfails, hfails.leavesBehind⟩
  · intro hordinary staged h
    exact replace_snd_of_write hordinary h

/-- A directory at the target: the contents stay beside it in a file that was not there before, and
that file takes the place of one that was. -/
theorem directory_leaves_temporary :
    let tree : Tree := ({} : Tree).put ["d"] .directory
    let used : Tree := tree.put [".d.tmp"] (.file [121])
    (replace tree (.ofString "d") [120]).2 =
        .error (notCommitted (.ofString "d") "Is a directory (os error 21)") ∧
      tree.get? [".d.tmp"] = none ∧
      (replace tree (.ofString "d") [120]).1.get? [".d.tmp"] = some (.file [120]) ∧
      (replace used (.ofString "d") [120]).2 =
        .error (notCommitted (.ofString "d") "Is a directory (os error 21)") ∧
      used.get? [".d.tmp"] = some (.file [121]) ∧
      (replace used (.ofString "d") [120]).1.get? [".d.tmp"] = some (.file [120]) := by
  decide

end QueryBridge.Files
