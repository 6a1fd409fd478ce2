import QueryBridge.Proofs.Files.Replacing

/-!
# A replacement is all or nothing

Up to the moment at which the temporary file has been moved, a replacement has touched the location
of that file at most (`BeforeMove.alike`). The target stands elsewhere and not behind it, so a path
to it finds what it found before, and an attempt that fails never gets beyond these moments
(`beforeMove_of_replace_error`). Where the move succeeds, the target is a file with the new
contents, the temporary file is gone, also if one was left over from before, and no other location
was touched (`alike_replace`). The main result is `replace_all_or_nothing`, for every tree, grounded
or not.
-/

set_option autoImplicit false

namespace QueryBridge.Files

namespace Tree

/-! ## Trees that differ in few places -/

/-- Two trees have the same directories, and everything else is the same but at given locations. -/
structure AlikeBut (places : List Location) (tree after : Tree) : Prop where
  keeps : Keeps tree after
  keepsBack : Keeps after tree
  same : ∀ place, place ∉ places → after.get? place = tree.get? place

section Alike

variable {tree middle after : Tree} {place : Location} {places others : List Location} {path : Path}
  {octets : List UInt8} {entry : Entry}

theorem AlikeBut.refl (places : List Location) (tree : Tree) : AlikeBut places tree tree :=
  ⟨fun _ => id, fun _ => id, fun _ _ => rfl⟩

/-- Changes at some places and then at others are changes at all of these places. -/
theorem AlikeBut.trans (hfirst : AlikeBut places tree middle)
    (hlater : AlikeBut others middle after) :
    AlikeBut (places ++ others) tree after where
  keeps := fun other h => hlater.keeps other (hfirst.keeps other h)
  keepsBack := fun other h => hfirst.keepsBack other (hlater.keepsBack other h)
  same := fun other h => by
    rw [List.mem_append, not_or] at h
    rw [hlater.same other h.2, hfirst.same other h.1]

theorem AlikeBut.mono (h : AlikeBut places tree after) (hsub : places ⊆ others) :
    AlikeBut others tree after :=
  ⟨h.keeps, h.keepsBack, fun other hother => h.same other fun hmem => hother (hsub hmem)⟩

/-- A file that is written in place of no directory makes no directory. -/
theorem alikeBut_put (hfree : tree.get? place ≠ some .directory) :
    AlikeBut [place] tree (tree.put place (.file octets)) where
  keeps := keeps_put hfree
  keepsBack := fun other h => by
    have hne : other ≠ place := by
      rintro rfl
      rw [get?_put_self hfree] at h
      simp at h
    rwa [get?_put_of_ne hne] at h
  same := fun other h => get?_put_of_ne (by simpa using h)

theorem alikeBut_remove (hfree : tree.get? place ≠ some .directory) :
    AlikeBut [place] tree (tree.remove place) where
  keeps := keeps_remove hfree
  keepsBack := fun other h => by
    have hne : other ≠ place := by
      rintro rfl
      rw [get?_remove_self hfree] at h
      simp at h
    rwa [get?_remove_of_ne hne] at h
  same := fun other h => get?_remove_of_ne (by simpa using h)

/-- A path to another location finds the same. -/
theorem AlikeBut.find_iff (h : AlikeBut places tree after) (hother : plainLocation path ∉ places) :
    after.find path = .ok entry ↔ tree.find path = .ok entry := by
  rw [find_eq_ok_iff, find_eq_ok_iff]
  constructor
  · rintro ⟨place, hplace, hentry⟩
    have hlocation := eq_plainLocation_of_locate hplace
    rw [h.same place (hlocation ▸ hother)] at hentry
    exact ⟨place, locate_of_keeps h.keepsBack hplace, hentry⟩
  · rintro ⟨place, hplace, hentry⟩
    have hlocation := eq_plainLocation_of_locate hplace
    rw [← h.same place (hlocation ▸ hother)] at hentry
    exact ⟨place, locate_of_keeps h.keeps hplace, hentry⟩

/-- An ordinary path that does not lead through the locations in question finds the same, or ends in
the same fault. -/
theorem AlikeBut.find_eq (h : AlikeBut places tree after) (hordinary : path.IsOrdinary)
    (hapart : ∀ place ∈ places, ¬ place <+: plainLocation path) :
    after.find path = tree.find path :=
  find_congr hordinary fun other hlead => h.same other fun hmem => hapart other hmem hlead

theorem get?_of_find (h : tree.find path = .ok entry) :
    tree.get? (plainLocation path) = some entry := by
  obtain ⟨place, hplace, hentry⟩ := find_eq_ok_iff.1 h
  rwa [← eq_plainLocation_of_locate hplace]

end Alike

end Tree

/-! ## Moments of a replacement -/

/-- The trees at the moments of a replacement up to the successful move: before the first step,
after it, whether it succeeded or not, and after the second one if that failed. -/
inductive BeforeMove (tree : Tree) (path : Path) (octets : List UInt8) : Tree → Prop
  | start : BeforeMove tree path octets tree
  | staged : BeforeMove tree path octets (stage tree path octets).1
  | notMoved {staged after : Tree} {report : Report}
      (hstage : stage tree path octets = (staged, .ok ()))
      (hcommit : commit staged path = (after, .error report)) : BeforeMove tree path octets after

section Moments

variable {tree staged after point : Tree} {path : Path} {octets : List UInt8} {report : Report}
  {outcome : Fallible Unit}

/-- The first step writes the temporary file or nothing. -/
theorem alike_stage (h : stage tree path octets = (staged, outcome)) :
    Tree.AlikeBut [Tree.plainLocation (temporary path)] tree staged := by
  cases outcome with
  | error report =>
      rw [eq_of_stage_error h]
      exact Tree.AlikeBut.refl _ tree
  | ok _ =>
      obtain ⟨work, hwork, hfree, rfl⟩ := Tree.cases_of_write (write_of_stage h)
      rw [← Tree.eq_plainLocation_of_locate hwork]
      exact Tree.alikeBut_put hfree

/-- Before the move, no other place than that of the temporary file has been touched. -/
theorem BeforeMove.alike (h : BeforeMove tree path octets point) :
    Tree.AlikeBut [Tree.plainLocation (temporary path)] tree point := by
  cases h with
  | start => exact Tree.AlikeBut.refl _ tree
  | staged => exact alike_stage rfl
  | notMoved hstage hcommit =>
      rw [eq_of_commit_error hcommit]
      exact alike_stage hstage

/-- An attempt that fails ends at one of the moments before the move. -/
theorem beforeMove_of_replace_error (h : replace tree path octets = (after, .error report)) :
    BeforeMove tree path octets after := by
  rw [replace] at h
  split at h
  · rename_i staged other hstage
    cases h
    have hfirst : BeforeMove tree path octets (stage tree path octets).1 := .staged
    rwa [hstage] at hfirst
  · rename_i staged hstage
    exact .notMoved hstage h

/-- The target stands elsewhere than the temporary file. -/
theorem temporary_ne (hordinary : path.IsOrdinary) :
    Tree.plainLocation (temporary path) ≠ Tree.plainLocation path :=
  fun hsame => temporary_apart hordinary (hsame ▸ List.prefix_refl _)

/-- A replacement that succeeds leaves nothing at the location of the temporary file, and touches no
location but that one and its target's. -/
theorem alike_replace (hordinary : path.IsOrdinary)
    (h : replace tree path octets = (after, .ok ())) :
    after.get? (Tree.plainLocation (temporary path)) = none ∧
      Tree.AlikeBut [Tree.plainLocation path, Tree.plainLocation (temporary path)] tree after := by
  obtain ⟨work, goal, hwork, hfree, hgoal, hnone, rfl⟩ := cases_of_replace h
  rw [← Tree.eq_plainLocation_of_locate hwork, ← Tree.eq_plainLocation_of_locate hgoal]
  have hne : work ≠ goal := by
    rw [Tree.eq_plainLocation_of_locate hwork, Tree.eq_plainLocation_of_locate hgoal]
    exact temporary_ne hordinary
  have hfile : (tree.put work (.file octets)).get? work ≠ some .directory := by
    rw [Tree.get?_put_self hfree]
    simp
  have hmoved := (Tree.alikeBut_remove hfile).trans
    (@Tree.alikeBut_put _ _ octets (Tree.get?_remove_ne_directory hnone work))
  constructor
  · rw [Tree.get?_put_of_ne hne, Tree.get?_remove_self hfile]
  · exact ((Tree.alikeBut_put hfree).trans hmoved).mono (by simp)

end Moments

/-! ## All or nothing -/

/-- A replacement does all that it is to do, or nothing to its target. -/
structure AllOrNothing (tree : Tree) (path : Path) (octets : List UInt8) : Prop where
  /-- The temporary file stands beside the target, under the target's name between a point and an
  ending. -/
  beside : ∀ above, path.parent? = some above → ∃ last, path.name? = some last ∧
    Tree.plainLocation path = Tree.plainLocation above ++ [String.ofList last] ∧
    Tree.plainLocation (temporary path) =
      Tree.plainLocation above ++ [String.ofList ('.' :: last ++ ['.', 't', 'm', 'p'])]
  /-- Up to the successful move, the target is what it was: absent, a file or a directory. -/
  before : ∀ point, BeforeMove tree path octets point →
    point.find path = tree.find path ∧
      point.get? (Tree.plainLocation path) = tree.get? (Tree.plainLocation path)
  /-- What fails ends at one of these moments. -/
  failed : ∀ after report, replace tree path octets = (after, .error report) →
    BeforeMove tree path octets after
  /-- What succeeds leaves a file with the new contents at the target, and no temporary file. -/
  succeeded : ∀ after, replace tree path octets = (after, .ok ()) →
    after.find path = .ok (.file octets) ∧
      after.get? (Tree.plainLocation path) = some (.file octets) ∧
      after.has (temporary path) = false ∧
      after.get? (Tree.plainLocation (temporary path)) = none
  /-- Everything elsewhere is the same at every moment, and is found by the same paths. -/
  elsewhere : ∀ point, BeforeMove tree path octets point ∨ point = (replace tree path octets).1 →
    (∀ place, place ≠ Tree.plainLocation path → place ≠ Tree.plainLocation (temporary path) →
      point.get? place = tree.get? place) ∧
    ∀ other entry, Tree.plainLocation other ≠ Tree.plainLocation path →
      Tree.plainLocation other ≠ Tree.plainLocation (temporary path) →
      (point.find other = .ok entry ↔ tree.find other = .ok entry)

/-- Whatever a replacement has come to, only its target and the temporary file may be another. -/
theorem alike_of_moment {tree point : Tree} {path : Path} {octets : List UInt8}
    (hordinary : path.IsOrdinary)
    (h : BeforeMove tree path octets point ∨ point = (replace tree path octets).1) :
    Tree.AlikeBut [Tree.plainLocation path, Tree.plainLocation (temporary path)] tree point := by
  have hbefore (h : BeforeMove tree path octets point) :=
    h.alike.mono (List.subset_cons_self (Tree.plainLocation path) _)
  rcases h with h | rfl
  · exact hbefore h
  · cases hreplace : replace tree path octets with
    | mk after outcome =>
        rw [hreplace] at hbefore
        cases outcome with
        | error report => exact hbefore (beforeMove_of_replace_error hreplace)
        | ok _ => exact (alike_replace hordinary hreplace).2

/-- Replacing a file at an ordinary path is all or nothing, whatever the tree is. Up to the moment
at which the temporary file has been moved the target is what it was before, and every attempt that
fails ends up to there. An attempt that succeeds leaves a file with exactly the new contents and no
temporary file, also if one stood there before. In all cases nothing else is touched. -/
theorem replace_all_or_nothing (tree : Tree) (path : Path) (octets : List UInt8)
    (hordinary : path.IsOrdinary) : AllOrNothing tree path octets where
  beside := fun above hparent => by
    obtain ⟨habove, last, hname, -, hslash, -, hlocation⟩ :=
      Tree.plainLocation_above hordinary hparent
    exact ⟨last, hname, hlocation, plainLocation_temporary habove hparent hname hslash⟩
  before := fun point h => by
    have hapart : ∀ place ∈ [Tree.plainLocation (temporary path)],
        ¬ place <+: Tree.plainLocation path :=
      List.forall_mem_singleton.2 (temporary_apart hordinary)
    refine ⟨h.alike.find_eq hordinary hapart, h.alike.same _ ?_⟩
    simpa using (temporary_ne hordinary).symm
  failed := fun _ _ => beforeMove_of_replace_error
  succeeded := fun after h => by
    have hfind := find_of_replace h
    have hgone := (alike_replace hordinary h).1
    exact ⟨hfind, Tree.get?_of_find hfind, Tree.has_eq_false_of_get? hgone, hgone⟩
  elsewhere := fun point h => by
    have halike := alike_of_moment hordinary h
    refine ⟨fun place htarget hwork => halike.same place (by simp [htarget, hwork]), ?_⟩
    intro other entry htarget hwork
    exact halike.find_iff (by simp [htarget, hwork])

/-- A directory with a file, a temporary file left over for it, and a directory. -/
def leftoverTree : Tree :=
  ((({} : Tree).put ["home"] .directory).put ["home", "config.toml"] (.file [1])).put
    ["home", ".config.toml.tmp"] (.file [2, 3]) |>.put ["home", "notes"] .directory

/-- The file is replaced and the old temporary file is gone; the directory cannot be replaced, is
still there behind the attempt, and the file beside it is untouched. -/
theorem leftoverTree_replaced_or_not :
    Path.IsOrdinary (.ofString "home/config.toml") ∧ Path.IsOrdinary (.ofString "home/notes") ∧
    (replace leftoverTree (.ofString "home/config.toml") [9]).2 = .ok () ∧
    (replace leftoverTree (.ofString "home/config.toml") [9]).1.find
      (.ofString "home/config.toml") = .ok (.file [9]) ∧
    (replace leftoverTree (.ofString "home/config.toml") [9]).1.has
      (.ofString "home/.config.toml.tmp") = false ∧
    (replace leftoverTree (.ofString "home/notes") [9]).2 =
      .error (notCommitted (.ofString "home/notes") Fault.isDirectory.message) ∧
    (replace leftoverTree (.ofString "home/notes") [9]).1.find (.ofString "home/notes") =
      .ok .directory ∧
    (replace leftoverTree (.ofString "home/notes") [9]).1.find (.ofString "home/config.toml") =
      .ok (.file [1]) := by
  have hfile : Path.IsOrdinary (.ofString "home/config.toml") := by decide
  have hdirectory : Path.IsOrdinary (.ofString "home/notes") := by decide
  have hdone : (replace leftoverTree (.ofString "home/config.toml") [9]).2 = .ok () := by rfl
  have hrefused : (replace leftoverTree (.ofString "home/notes") [9]).2 =
      .error (notCommitted (.ofString "home/notes") Fault.isDirectory.message) := by rfl
  have hreplaced := replace_all_or_nothing leftoverTree (.ofString "home/config.toml") [9] hfile
  have hspared := replace_all_or_nothing leftoverTree (.ofString "home/notes") [9] hdirectory
  obtain ⟨hfind, -, hgone, -⟩ := hreplaced.succeeded _ (Prod.ext rfl hdone)
  have hstill := (hspared.before _ (hspared.failed _ _ (Prod.ext rfl hrefused))).1
  have hbeside := (hspared.elsewhere _ (.inr rfl)).2 (.ofString "home/config.toml") (.file [1])
    (by decide) (by decide)
  exact ⟨hfile, hdirectory, hdone, hfind, hgone, hrefused, hstill.trans (by rfl),
    hbeside.2 (by rfl)⟩

end QueryBridge.Files
