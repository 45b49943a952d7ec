import HomeRules.Proofs.Host.Coalescing
import HomeRules.Proofs.Scanner

/-!
# What the watcher notices

The watcher and the loader look at the entries of the script directory each in its own way. They
take the same files for scripts, as long as none is disabled. A folder with the name of a script is
never loaded, but watched as if it were.
-/

set_option autoImplicit false

namespace HomeRules

namespace FileTree

/-- A folder that has the name of a script. -/
def HasFolder (tree : FileTree) (directory name : String) : Prop :=
  Scanner.watches [ruleExtension] name = true ∧
    ∃ modified, (tree.listing directory).get? name = some ⟨.directory, modified⟩

/-- When a script that the loader finds was last modified. -/
def loadTimes (tree : FileTree) (directory : String) (config : ScriptConfig) (name : String) :
    Option Nat :=
  if name ∈ discover tree directory config then tree.modified? directory name else none

end FileTree

/-- A scan reports a name, whether as changed, as new or as gone. -/
def ScanResult.Reports (result : ScanResult) (name : String) : Prop :=
  (∃ time, (name, time) ∈ result.changed) ∨ name ∈ result.added ∨ name ∈ result.removed

/-! ## Scripts and folders -/

theorem mem_discover_iff {tree : FileTree} {directory : String} {config : ScriptConfig}
    {name : String} : name ∈ discover tree directory config ↔
      ∃ entry, (tree.listing directory).get? name = some entry ∧ isScript config name entry := by
  have listed (entry : FileEntry) : (tree.listing directory).get? name = some entry ↔
      (name, entry) ∈ tree.listing directory :=
    (tree.listing_sorted directory).get?_eq_some_iff
  simp [discover, Dictionary.keys, listed]

section Scripts

variable {tree : FileTree} {directory : String} {config : ScriptConfig}
  (enabled : ∀ id, isEnabled config id = true) {name : String}

include enabled in
theorem isScript_file (bytes : ByteArray) (modified : Nat) :
    isScript config name ⟨.file bytes, modified⟩ = Scanner.watches [ruleExtension] name := by
  rw [isScript, enabled, Bool.and_true, Scanner.watches, isRuleFile]
  cases Path.extension? name <;> simp

theorem FileTree.HasFolder.not_mem_discover (folder : tree.HasFolder directory name) :
    name ∉ discover tree directory config := by
  obtain ⟨-, modified, listed⟩ := folder
  rw [mem_discover_iff]
  rintro ⟨entry, same, script⟩
  cases listed.symm.trans same
  cases script

include enabled in
theorem mem_discover_iff_watched (plain : ¬tree.HasFolder directory name) :
    name ∈ discover tree directory config ↔
      Scanner.watches [ruleExtension] name ∧ ((tree.listing directory).get? name).isSome := by
  rw [mem_discover_iff]
  cases listed : (tree.listing directory).get? name with
  | none => simp
  | some entry =>
      simp only [Option.some.injEq, exists_eq_left', Option.isSome_some, and_true]
      obtain ⟨contents, modified⟩ := entry
      cases contents with
      | file bytes => rw [isScript_file enabled]
      | directory =>
          exact iff_of_false Bool.false_ne_true fun watched => plain ⟨watched, modified, listed⟩

/-- Where no folder has its name, a script is watched just if it is found. -/
theorem FileTree.scriptTimes_eq (enabled : ∀ id, isEnabled config id = true)
    (plain : ¬tree.HasFolder directory name) :
    tree.scriptTimes directory [ruleExtension] name = tree.loadTimes directory config name := by
  have found := mem_discover_iff_watched enabled plain
  unfold scriptTimes loadTimes
  by_cases watched : Scanner.watches [ruleExtension] name
  · cases listed : (tree.listing directory).get? name with
    | none => simp [modified?, listed]
    | some entry =>
        rw [listed] at found
        rw [if_pos watched, if_pos (found.mpr ⟨watched, rfl⟩)]
  · rw [if_neg watched, if_neg fun member => watched (found.mp member).1]

theorem mem_known_iff :
    name ∈ Dictionary.keys (Scanner.create tree directory [ruleExtension]).known ↔
      (tree.scriptTimes directory [ruleExtension] name).isSome := by
  rw [← Dictionary.contains_iff_mem_keys, Dictionary.contains, ← Scanner.timesIn_get?]
  rfl

include enabled in
theorem mem_known_iff_found :
    name ∈ Dictionary.keys (Scanner.create tree directory [ruleExtension]).known ↔
      name ∈ discover tree directory config ∨ tree.HasFolder directory name := by
  rw [mem_known_iff]
  by_cases folder : tree.HasFolder directory name
  · obtain ⟨watched, modified, listed⟩ := folder
    refine iff_of_true ?_ (.inr ⟨watched, modified, listed⟩)
    rw [FileTree.scriptTimes, if_pos watched, FileTree.modified?, listed]
    rfl
  · have found := mem_discover_iff_watched enabled folder
    rw [or_iff_left folder, found, FileTree.scriptTimes]
    by_cases watched : Scanner.watches [ruleExtension] name <;> simp [watched, FileTree.modified?]

end Scripts

/-! ## Reports -/

namespace ScanResult.Tells

variable {result : ScanResult} {before after : String → Option Nat}

/-- A scan reports just the names at which the maps differ. -/
theorem reports_iff (tells : result.Tells before after) (name : String) :
    result.Reports name ↔ before name ≠ after name := by
  simp only [Reports, tells.changed, tells.added, tells.removed]
  cases was : before name <;> cases is : after name <;> simp

theorem hasChanges_iff (tells : result.Tells before after) :
    result.hasChanges = true ↔ ∃ name, result.Reports name := by
  rw [← not_iff_not, Bool.not_eq_true, tells.quiet_iff, not_exists]
  simp only [tells.reports_iff, not_not]
  exact funext_iff

end ScanResult.Tells

/-! ## The watcher -/

namespace Host

theorem runWatcher_loops {host : Host} {watcher : Watcher} (there : host.watcher = some watcher)
    (live : host.loops.shutDown = false) :
    (after runWatcher host).loops =
      if (watcher.scanner.scan host.tree).2.hasChanges then host.loops.request.1
      else host.loops := by
  rw [runWatcher, after_get_bind, there]
  dsimp only
  rw [live, if_neg Bool.false_ne_true]
  obtain ⟨scanner, result⟩ := watcher.scanner.scan host.tree
  cases result.hasChanges with
  | false => rfl
  | true => exact changeLoops_loops ReloadLoops.request host

/-- The watcher knows what the loader finds, and besides only the folders that have the name of a
script. When it is given control it requests a reload just if it reports a name. What it reports of
a name that no folder had or has is that a script that the loader finds under it has appeared,
changed or disappeared. -/
theorem watcher_follows_loader (before : FileTree) (directory : String) {config : ScriptConfig}
    (enabled : ∀ id, isEnabled config id = true) :
    let known := Dictionary.keys (Scanner.create before directory [ruleExtension]).known
    let found := discover before directory config
    found.Pairwise (· < ·) ∧
    (∀ name, name ∈ known ↔ name ∈ found ∨ before.HasFolder directory name) ∧
    (∀ name, before.HasFolder directory name → name ∉ found) ∧
    ∀ (host : Host) (watcher : Watcher), host.watcher = some watcher →
      watcher.scanner = Scanner.create before directory [ruleExtension] →
      host.loops.shutDown = false →
      let result := (watcher.scanner.scan host.tree).2
      ((∃ name, result.Reports name) → (after runWatcher host).loops = host.loops.request.1) ∧
      ((∀ name, ¬result.Reports name) → (after runWatcher host).loops = host.loops) ∧
      ∀ name, ¬before.HasFolder directory name → ¬host.tree.HasFolder directory name →
        (result.Reports name ↔ before.loadTimes directory config name ≠
          host.tree.loadTimes directory config name) := by
  refine ⟨discover_sorted before directory config, fun name => mem_known_iff_found enabled,
    fun name folder => folder.not_mem_discover, ?_⟩
  intro host watcher there scanner live result
  have tells : result.Tells (before.scriptTimes directory [ruleExtension])
      (host.tree.scriptTimes directory [ruleExtension]) := by
    simp only [result, scanner]
    exact Scanner.scan_tells directory [ruleExtension] before host.tree
  have ran : (after runWatcher host).loops =
      if result.hasChanges then host.loops.request.1 else host.loops :=
    runWatcher_loops there live
  refine ⟨fun reported => ?_, fun silent => ?_, fun name was is => ?_⟩
  · rw [ran, if_pos (tells.hasChanges_iff.mpr reported)]
  · rw [ran, if_neg fun changed => ?_]
    obtain ⟨name, reported⟩ := tells.hasChanges_iff.mp changed
    exact silent name reported
  · rw [tells.reports_iff, before.scriptTimes_eq enabled was, host.tree.scriptTimes_eq enabled is]

/-- A script directory with a lamp that was last modified at some time, and with a folder. -/
def lampFolder (modified : Nat) : FileTree where
  entries := [(["scripts"], ⟨.directory, 0⟩), (["scripts", "lamp.toml"], ⟨.file .empty, modified⟩),
    (["scripts", "rooms.toml"], ⟨.directory, 5⟩)]

theorem watcher_follows_loader_lamp :
    let scanner := Scanner.create (lampFolder 5) "scripts" [ruleExtension]
    let host : Host :=
      { tree := lampFolder 6, watcher := some { scanner, interval := 1000, due := 1000 } }
    "lamp.toml" ∈ scanner.known.keys ∧ "rooms.toml" ∉ discover (lampFolder 5) "scripts" [] ∧
      (after runWatcher host).loops = host.loops.request.1 := by
  intro scanner host
  obtain ⟨-, known, apart, noticed⟩ :=
    watcher_follows_loader (lampFolder 5) "scripts" fun id => (rfl : isEnabled [] id = true)
  obtain ⟨requested, -, reports⟩ := noticed host _ rfl rfl rfl
  have entries (modified : Nat) : (lampFolder modified).listing "scripts" =
      [("lamp.toml", ⟨.file .empty, modified⟩), ("rooms.toml", ⟨.directory, 5⟩)] :=
    rfl
  have listed (modified : Nat) : ((lampFolder modified).listing "scripts").get? "lamp.toml" =
      some ⟨.file .empty, modified⟩ := by
    rw [entries]
    rfl
  have plain (modified : Nat) : ¬(lampFolder modified).HasFolder "scripts" "lamp.toml" := by
    rintro ⟨-, _, folder⟩
    cases (listed modified).symm.trans folder
  have found : "lamp.toml" ∈ discover (lampFolder 5) "scripts" [] := by
    decide +kernel
  have folder : (lampFolder 5).HasFolder "scripts" "rooms.toml" := by
    refine ⟨by decide +kernel, 5, ?_⟩
    rw [entries]
    rfl
  refine ⟨(known _).mpr (.inl found), apart _ folder, requested ⟨"lamp.toml", ?_⟩⟩
  refine (reports _ (plain 5) (plain 6)).mpr ?_
  decide +kernel

/-- A folder with the name of a script is never loaded, but it is watched, and it is reported when
it appears. -/
theorem folder_watched_not_loaded :
    let bare : FileTree := ⟨[(["scripts"], ⟨.directory, 0⟩)]⟩
    let tree : FileTree :=
      ⟨[(["scripts"], ⟨.directory, 0⟩), (["scripts", "rooms.toml"], ⟨.directory, 6⟩)]⟩
    (Scanner.create tree "scripts" [ruleExtension]).known.keys = ["rooms.toml"] ∧
      discover tree "scripts" [] = [] ∧
      ((Scanner.create bare "scripts" [ruleExtension]).scan tree).2.hasChanges = true := by
  decide +kernel

end Host

end HomeRules
