import QueryBridge.Proofs.Files.Replacing
import QueryBridge.Proofs.Settings.Document
import QueryBridge.Proofs.Text.Octets
import QueryBridge.Settings.Store

/-!
# Settings survive the file they are saved in

Saving makes the directories above the file and replaces it. Where that succeeds, the file holds the
octets of the document, which give the settings back; where it fails, on whichever step, the
location of the file was spared, and loading gives what it gave before (`save_then_load`). The tree
must be grounded for the latter, and saving leaves it so (`grounded_save`).
-/

set_option autoImplicit false

namespace QueryBridge.Settings

open QueryBridge.Files

section Saving

variable {tree after : Tree} {path : Path} {settings : Settings} {report : Report}

/-- Preparing a file makes directories above its location only, so it spares the location. -/
theorem spares_prepare (tree : Tree) (hordinary : path.IsOrdinary) :
    Tree.Spares (Tree.plainLocation path) tree (prepare tree path).1 := by
  rw [prepare]
  split
  · exact Tree.Spares.refl _ tree
  · rename_i above hparent
    obtain ⟨habove, last, -, -, -, -, hlocation⟩ := Tree.plainLocation_above hordinary hparent
    have hshort : (Tree.plainLocation above).length < (Tree.plainLocation path).length := by
      rw [hlocation, List.length_append, List.length_singleton]
      exact Nat.lt_succ_self _
    have hspares := Tree.spares_makeDirectoriesWith (above.text.length + 1) tree habove hshort
    rw [← Tree.makeDirectories] at hspares
    split
    · rename_i made hmade
      rwa [hmade] at hspares
    · rename_i made fault hmade
      rwa [hmade] at hspares

/-- A file that holds the document of settings loads as these settings. -/
theorem load_of_find (htimeout : ∀ secs ∈ settings.timeoutSecs, secs ≤ Text.maxWord)
    (h : tree.find path = .ok (.file (Text.Utf8.encode settings.write))) :
    load tree path = .ok settings := by
  rw [load, Tree.read, h]
  dsimp only
  rw [Text.Utf8.decode_encode]
  dsimp only
  rw [parse?_write htimeout]

theorem loadOrDefault_of_find (htimeout : ∀ secs ∈ settings.timeoutSecs, secs ≤ Text.maxWord)
    (h : tree.find path = .ok (.file (Text.Utf8.encode settings.write))) :
    loadOrDefault tree path = .ok settings := by
  rw [loadOrDefault, Tree.has, h]
  dsimp only
  rw [if_pos rfl, load_of_find htimeout h]

/-- Loading depends on what the path finds, and on nothing else. -/
theorem loadOrDefault_congr (h : after.find path = tree.find path) :
    loadOrDefault after path = loadOrDefault tree path := by
  rw [loadOrDefault, loadOrDefault, load, load, Tree.has, Tree.has, Tree.read, Tree.read, h]

theorem loadOrDefault_of_has (h : tree.has path = false) : loadOrDefault tree path = .ok {} := by
  rw [loadOrDefault, h]
  rfl

/-- A spared file loads as it did. -/
theorem loadOrDefault_of_spares (hgrounded : tree.Grounded) (hordinary : path.IsOrdinary)
    (h : Tree.Spares (Tree.plainLocation path) tree after) :
    loadOrDefault after path = loadOrDefault tree path := by
  rcases h.find hgrounded hordinary with hfind | ⟨hafter, hbefore⟩
  · exact loadOrDefault_congr hfind
  · rw [loadOrDefault_of_has hafter, loadOrDefault_of_has hbefore]

theorem find_of_save (h : save tree path settings = (after, .ok ())) :
    after.find path = .ok (.file (Text.Utf8.encode settings.write)) := by
  rw [save] at h
  split at h
  · cases h
  · exact find_of_replace h

/-- Saving that fails leaves what stands at the path alone. -/
theorem spares_save (hordinary : path.IsOrdinary)
    (h : save tree path settings = (after, .error report)) :
    Tree.Spares (Tree.plainLocation path) tree after := by
  have hprepare := spares_prepare tree hordinary
  rw [save] at h
  split at h
  · rename_i prepared other hprepared
    rw [hprepared] at hprepare
    cases h
    exact hprepare
  · -- The directories that were made stay, and so may the temporary file, but all of it elsewhere.
    rename_i prepared hprepared
    rw [hprepared] at hprepare
    exact hprepare.trans (spares_replace hordinary h)

/-- Making the directory for a file keeps every entry in a directory. -/
theorem grounded_prepare (hgrounded : tree.Grounded) (path : Path) :
    (prepare tree path).1.Grounded := by
  rw [prepare]
  split
  · exact hgrounded
  · rename_i above hparent
    have hmade := hgrounded.makeDirectories above
    split
    · rename_i made hrun
      rwa [hrun] at hmade
    · rename_i made fault hrun
      rwa [hrun] at hmade

/-- A tree in which settings were saved stays grounded, whether that succeeded or not. -/
theorem grounded_save (hgrounded : tree.Grounded) (path : Path) (settings : Settings) :
    (save tree path settings).1.Grounded := by
  have hprepare := grounded_prepare hgrounded path
  rw [save]
  split
  · rename_i prepared report hprepared
    rwa [hprepared] at hprepare
  · rename_i prepared hprepared
    rw [hprepared] at hprepare
    exact grounded_replace hprepare path _

/-- Settings are read back from their document. If they were saved in a file, they are what it loads
as; if saving failed, the file loads as it did before. -/
theorem save_then_load (tree : Tree) (path : Path) (settings : Settings)
    (htimeout : ∀ secs ∈ settings.timeoutSecs, secs ≤ Text.maxWord) (hgrounded : tree.Grounded)
    (hordinary : path.IsOrdinary) :
    parse? settings.write = some settings ∧
      (∀ after, save tree path settings = (after, .ok ()) →
        loadOrDefault after path = .ok settings) ∧
      (∀ after report, save tree path settings = (after, .error report) →
        loadOrDefault after path = loadOrDefault tree path) := by
  refine ⟨parse?_write htimeout, ?_, ?_⟩
  · intro after hsaved
    exact loadOrDefault_of_find htimeout (find_of_save hsaved)
  · intro after report hfailed
    exact loadOrDefault_of_spares hgrounded hordinary (spares_save hordinary hfailed)

/-- A directory with another directory in it. -/
def nestedTree : Tree :=
  (({} : Tree).put ["home"] .directory).put ["home", "qtr"] .directory

/-- An endpoint of quotes, escapes and line ends, and the largest time limit. -/
def quotedSettings : Settings :=
  ⟨some "\"'''\\\n\r\x07é", some Text.maxWord⟩

/-- Settings are saved below a directory that is missing, and are not saved where a directory is;
then a temporary file stays. -/
theorem save_then_load_quotedSettings :
    (save nestedTree (.ofString "home/new/config.toml") quotedSettings).2 = .ok () ∧
      loadOrDefault (save nestedTree (.ofString "home/new/config.toml") quotedSettings).1
        (.ofString "home/new/config.toml") = .ok quotedSettings ∧
      (save nestedTree (.ofString "home/qtr") quotedSettings).2 =
        .error ⟨"Failed to replace home/qtr", [Fault.isDirectory.message]⟩ ∧
      (save nestedTree (.ofString "home/qtr") quotedSettings).1.has (.ofString "home/.qtr.tmp") ∧
      loadOrDefault (save nestedTree (.ofString "home/qtr") quotedSettings).1
        (.ofString "home/qtr") = loadOrDefault nestedTree (.ofString "home/qtr") := by
  have hgrounded : nestedTree.Grounded :=
    (Tree.grounded_empty.put (by decide) (by decide)).put (by decide) (by decide)
  have htimeout : ∀ secs ∈ quotedSettings.timeoutSecs, secs ≤ Text.maxWord := by
    rintro secs ⟨⟩
    exact Nat.le_refl _
  have hsaved : (save nestedTree (.ofString "home/new/config.toml") quotedSettings).2 = .ok () := by
    rfl
  have hfailed : (save nestedTree (.ofString "home/qtr") quotedSettings).2 =
      .error ⟨"Failed to replace home/qtr", [Fault.isDirectory.message]⟩ := by
    rfl
  obtain ⟨-, hloads, -⟩ := save_then_load nestedTree (.ofString "home/new/config.toml")
    quotedSettings htimeout hgrounded (by decide)
  obtain ⟨-, -, hstays⟩ := save_then_load nestedTree (.ofString "home/qtr") quotedSettings htimeout
    hgrounded (by decide)
  exact ⟨hsaved, hloads _ (Prod.ext rfl hsaved), hfailed, by rfl, hstays _ _ (Prod.ext rfl hfailed)⟩

end Saving

end QueryBridge.Settings
