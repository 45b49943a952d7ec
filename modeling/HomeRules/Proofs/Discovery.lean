import HomeRules.Discovery
import HomeRules.Proofs.Dictionary

/-!
# The order of discovery

The listing of a directory has its names in increasing order, and each name once. So have the
scripts discovered in it.
-/

set_option autoImplicit false

namespace HomeRules

theorem FileTree.listing_sorted (tree : FileTree) (directory : String) :
    (tree.listing directory).Sorted := by
  unfold listing
  split
  · split
    · exact Dictionary.sorted_ofList _
    · exact .nil
  · exact .nil

/-- Scripts are discovered in the order of their names, and each of them once. -/
theorem discover_sorted (tree : FileTree) (directory : String) (config : ScriptConfig) :
    (discover tree directory config).Pairwise (· < ·) :=
  List.pairwise_map.mpr ((tree.listing_sorted directory).filter _)

end HomeRules
