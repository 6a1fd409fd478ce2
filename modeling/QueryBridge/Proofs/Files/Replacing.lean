import QueryBridge.Proofs.Files.Trees

/-!
# Replacing a file

Replacing a file ends with the new contents at its path (`find_of_replace`), or spares what stood
there (`spares_replace`). Either way a grounded tree stays grounded (`grounded_replace`).
-/

set_option autoImplicit false

namespace QueryBridge.Files

namespace Tree

section Writing

variable {tree after : Tree} {place goal : Location} {path source : Path} {octets : List UInt8}
  {entry : Entry}

theorem keeps_put (h : tree.get? place ≠ some .directory) : Keeps tree (tree.put place entry) := by
  intro other hother
  have hne : other ≠ place := by
    rintro rfl
    exact h hother
  rwa [get?_put_of_ne hne]

theorem keeps_remove (h : tree.get? place ≠ some .directory) : Keeps tree (tree.remove place) := by
  intro other hother
  have hne : other ≠ place := by
    rintro rfl
    exact h hother
  rwa [get?_remove_of_ne hne]

/-- What a successful write does. -/
theorem cases_of_write (h : tree.write path octets = .ok after) :
    ∃ place, tree.locate path = .ok place ∧ tree.get? place ≠ some .directory ∧
      after = tree.put place (.file octets) := by
  rw [write] at h
  cases hlocate : tree.locate path with
  | error fault =>
      rw [hlocate] at h
      cases h
  | ok place =>
      rw [hlocate] at h
      dsimp only at h
      split at h
      · cases h
      · rename_i hplace
        cases h
        exact ⟨place, rfl, hplace, rfl⟩

theorem pieces_of_target {pieces : List (List Char)}
    (hlast : (pieces.reverse.dropWhile (· = [])).headD [] ≠ [])
    (hslash : pieces.reverse.head? ≠ some []) :
    pieces = ((pieces.reverse.dropWhile (· = [])).drop 1).reverse ++
      [(pieces.reverse.dropWhile (· = [])).headD []] := by
  cases hbackwards : pieces.reverse with
  | nil =>
      rw [hbackwards] at hlast
      exact absurd rfl hlast
  | cons last front =>
      have hne : last ≠ [] := by
        rintro rfl
        exact hslash (by rw [hbackwards, List.head?_cons])
      rw [List.dropWhile_cons_of_neg (by simpa using hne), List.drop_one, List.tail_cons,
        List.headD_cons, ← List.reverse_cons, ← hbackwards, List.reverse_reverse]

/-- A file is moved to the location that the path leads to, and only where no directory is. -/
theorem cases_of_destination (h : tree.destination path = .ok goal) :
    tree.locate path = .ok goal ∧ tree.get? goal ≠ some .directory := by
  rw [destination] at h
  rw [locate]
  cases hcheck : checkPath path with
  | error fault =>
      rw [hcheck] at h
      cases h
  | ok _ =>
      rw [hcheck] at h
      unfold target at h
      dsimp only at h ⊢
      split at h
      · cases h
      · rename_i above habove
        have hfront := walk_of_append_empty habove
        split at h
        · cases h
        · rename_i hname
          simp only [Bool.or_eq_true, decide_eq_true_eq, not_or] at hname
          split at h
          · cases h
          · rename_i place henter
            split at h
            · cases h
            · rename_i hslash
              split at h
              · cases h
              · rename_i hplace
                cases h
                -- No slash stands behind the last name, so it is the last piece of the path.
                refine ⟨?_, hplace⟩
                rw [pieces_of_target hname.1.1 (by simpa using hslash), walk_append hfront,
                  walk_cons_of_enter henter, walk]

/-- What a successful move does. -/
theorem cases_of_move (h : tree.move source path = .ok after) :
    ∃ place goal octets, tree.locate source = .ok place ∧ tree.get? place = some (.file octets) ∧
      tree.destination path = .ok goal ∧ after = (tree.remove place).put goal (.file octets) := by
  rw [move] at h
  cases hlocate : tree.locate source with
  | error fault =>
      rw [hlocate] at h
      cases h
  | ok place =>
      rw [hlocate] at h
      dsimp only at h
      cases hdestination : tree.destination path with
      | error fault =>
          rw [hdestination] at h
          cases h
      | ok goal =>
          rw [hdestination] at h
          dsimp only at h
          split at h
          · rename_i octets hplace
            cases h
            exact ⟨place, goal, octets, rfl, hplace, rfl, rfl⟩
          · cases h
          · cases h

/-- Taking something away makes no directory. -/
theorem get?_remove_ne_directory (hfree : tree.get? goal ≠ some .directory) (place : Location) :
    (tree.remove place).get? goal ≠ some .directory := by
  by_cases hsame : goal = place
  · subst hsame
    rw [get?_remove_self hfree]
    simp
  · rwa [get?_remove_of_ne hsame]

theorem Grounded.write (hgrounded : tree.Grounded) (h : tree.write path octets = .ok after) :
    after.Grounded := by
  obtain ⟨place, hplace, hfree, rfl⟩ := cases_of_write h
  exact hgrounded.put (hgrounded.above_of_locate hplace) hfree

theorem Grounded.move (hgrounded : tree.Grounded) (h : tree.move source path = .ok after) :
    after.Grounded := by
  obtain ⟨place, goal, octets, -, hplace, hdestination, rfl⟩ := cases_of_move h
  obtain ⟨hgoal, hfree⟩ := cases_of_destination hdestination
  have hfile : tree.get? place ≠ some .directory := by simp [hplace]
  exact (hgrounded.remove hfile).put
    (keeps_remove hfile _ (hgrounded.above_of_locate hgoal)) (get?_remove_ne_directory hfree place)

end Writing

end Tree

section Replacing

variable {tree staged after : Tree} {path : Path} {octets : List UInt8} {report : Report}

theorem write_of_stage (h : stage tree path octets = (staged, .ok ())) :
    tree.write (temporary path) octets = .ok staged := by
  rw [stage] at h
  split at h
  · cases h
  · rename_i hwrite
    cases h
    exact hwrite

theorem eq_of_stage_error (h : stage tree path octets = (staged, .error report)) :
    staged = tree := by
  rw [stage] at h
  split at h <;> cases h
  rfl

theorem move_of_commit (h : commit tree path = (after, .ok ())) :
    tree.move (temporary path) path = .ok after := by
  rw [commit] at h
  split at h
  · cases h
  · rename_i hmove
    cases h
    exact hmove

theorem eq_of_commit_error (h : commit tree path = (after, .error report)) : after = tree := by
  rw [commit] at h
  split at h <;> cases h
  rfl

/-- What a successful replacement does. -/
theorem cases_of_replace (h : replace tree path octets = (after, .ok ())) :
    ∃ work goal, tree.locate (temporary path) = .ok work ∧ tree.get? work ≠ some .directory ∧
      (tree.put work (.file octets)).locate path = .ok goal ∧
      (tree.put work (.file octets)).get? goal ≠ some .directory ∧
      after = ((tree.put work (.file octets)).remove work).put goal (.file octets) := by
  rw [replace] at h
  split at h
  · cases h
  · rename_i staged hstage
    obtain ⟨work, hwork, hfree, rfl⟩ := Tree.cases_of_write (write_of_stage hstage)
    obtain ⟨source, goal, moved, hsource, hmoved, hdestination, hafter⟩ :=
      Tree.cases_of_move (move_of_commit h)
    -- The temporary file is found where it was written, so its contents are what is moved.
    obtain rfl : work = source := by
      have hagain := (Tree.locate_of_keeps (Tree.keeps_put hfree) hwork).symm.trans hsource
      exact Except.ok.inj hagain
    obtain rfl : moved = octets := by
      have hsame := hmoved.symm.trans (Tree.get?_put_self hfree)
      cases hsame
      rfl
    obtain ⟨hgoal, hnone⟩ := Tree.cases_of_destination hdestination
    exact ⟨work, goal, hwork, hfree, hgoal, hnone, hafter⟩

/-- A file that was replaced holds the new contents. -/
theorem find_of_replace (h : replace tree path octets = (after, .ok ())) :
    after.find path = .ok (.file octets) := by
  obtain ⟨work, goal, -, hfree, hgoal, hnone, hafter⟩ := cases_of_replace h
  have hfile : (tree.put work (.file octets)).get? work ≠ some .directory := by
    rw [Tree.get?_put_self hfree]
    simp
  have hstill := Tree.get?_remove_ne_directory hnone work
  rw [hafter, Tree.find_eq_ok_iff]
  exact ⟨goal, Tree.locate_of_keeps (Tree.keeps_put hstill)
    (Tree.locate_of_keeps (Tree.keeps_remove hfile) hgoal), Tree.get?_put_self hstill⟩

/-- The temporary file for a target with a last name stands beside it. -/
theorem plainLocation_temporary {above : Path} {last : List Char} (hordinary : above.IsOrdinary)
    (hparent : path.parent? = some above) (hname : path.name? = some last) (hslash : '/' ∉ last) :
    Tree.plainLocation (temporary path) =
      Tree.plainLocation above ++ [String.ofList ('.' :: last ++ ['.', 't', 'm', 'p'])] := by
  obtain ⟨hnames, habsolute⟩ := names_temporary hparent hname hslash
  have htemporary : (temporary path).IsOrdinary := by
    rw [Path.isOrdinary_iff] at hordinary ⊢
    intro name hmem
    rw [hnames] at hmem
    rcases List.mem_append.1 hmem with hmem | hmem
    · exact hordinary name hmem
    · obtain rfl := List.mem_singleton.1 hmem
      exact plain_temporary_name last
  rw [Tree.plainLocation_of_isOrdinary htemporary, Tree.plainLocation_of_isOrdinary hordinary,
    hnames, Tree.startOf, Tree.startOf, habsolute, List.map_append, List.append_assoc,
    List.map_singleton]

/-- The temporary file for a target stands elsewhere, and not in front of it. -/
theorem temporary_apart (hordinary : path.IsOrdinary) :
    ¬ Tree.plainLocation (temporary path) <+: Tree.plainLocation path := by
  rcases Path.names_of_ordinary hordinary with ⟨hnames, hparent, hname⟩ | ⟨above, -, hparent, -⟩
  · have htemporary : Tree.plainLocation (temporary path) = ["..tmp"] := by
      rw [temporary, workPlace, hparent, hname]
      decide
    rw [htemporary, Tree.plainLocation_of_isOrdinary hordinary, hnames, Tree.startOf]
    split <;> decide
  · obtain ⟨habove, last, hname, -, hslash, -, hlocation⟩ :=
      Tree.plainLocation_above hordinary hparent
    rw [plainLocation_temporary habove hparent hname hslash, hlocation]
    intro hlead
    -- Both have as many names, so the last ones would be the same.
    have hsame := hlead.eq_of_length (by simp)
    rw [List.append_cancel_left_eq, List.singleton_inj, String.ofList_inj] at hsame
    have hlength := congrArg List.length hsame
    simp only [List.length_append, List.length_cons, List.length_nil] at hlength
    omega

/-- A file that could not be replaced is spared. -/
theorem spares_replace (hordinary : path.IsOrdinary)
    (h : replace tree path octets = (after, .error report)) :
    Tree.Spares (Tree.plainLocation path) tree after := by
  have hapart := temporary_apart hordinary
  have hne : Tree.plainLocation (temporary path) ≠ Tree.plainLocation path := by
    intro hsame
    exact hapart (hsame ▸ List.prefix_refl _)
  rw [replace] at h
  split at h
  · rename_i staged other hstage
    cases h
    rw [eq_of_stage_error hstage]
    exact Tree.Spares.refl _ tree
  · rename_i staged hstage
    obtain ⟨work, hwork, -, hstaged⟩ := Tree.cases_of_write (write_of_stage hstage)
    rw [eq_of_commit_error h, hstaged, Tree.eq_plainLocation_of_locate hwork]
    exact Tree.spares_put hne (.inr hapart)

/-- A tree in which a file was replaced stays grounded, whether that succeeded or not. -/
theorem grounded_replace (hgrounded : tree.Grounded) (path : Path) (octets : List UInt8) :
    (replace tree path octets).1.Grounded := by
  rw [replace]
  split
  · rename_i staged report hstage
    rwa [eq_of_stage_error hstage]
  · rename_i staged hstage
    have hstaged : staged.Grounded := hgrounded.write (write_of_stage hstage)
    cases hcommit : commit staged path with
    | mk after outcome =>
        cases outcome with
        | error report => rwa [eq_of_commit_error hcommit]
        | ok _ => exact hstaged.move (move_of_commit hcommit)

end Replacing

end QueryBridge.Files
