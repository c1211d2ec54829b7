import PipelineConfig.Catalog
import PipelineConfig.Text.Sorted

/-!
# The inventory of materials

Every source that a committed pipeline uses, with the pipelines that use it.
-/

namespace PipelineConfig

/-- A source with the pipelines that use it. -/
structure InventoryItem where
  /-- How the first material that declared the source is told. -/
  description : String
  /-- The fingerprint of the source. -/
  fingerprint : String
  /-- The names of the pipelines, sorted, each spelling once. -/
  pipelines : List String
deriving DecidableEq, Repr

namespace InventoryItem

/-- The item of a source and its uses, if it has any. -/
def ofUses? (fingerprint : String) (uses : List Use) : Option InventoryItem :=
  uses.head?.map fun first =>
    ⟨first.material.describe, fingerprint,
      Text.sortedDistinct (uses.map fun use => use.pipeline.name.text)⟩

/-- Whether more than one pipeline uses the source. -/
def isShared (item : InventoryItem) : Bool := 1 < item.pipelines.length

/-- Items are ordered by description, then by fingerprint. -/
def order (left right : InventoryItem) : Ordering :=
  (compare left.description right.description).then (compare left.fingerprint right.fingerprint)

end InventoryItem

/-- All sources of a catalog in order. -/
def Catalog.inventory (catalog : Catalog) : List InventoryItem :=
  (catalog.uses.entries.filterMap fun entry => InventoryItem.ofUses? entry.1 entry.2).mergeSort
    fun left right => (InventoryItem.order left right).isLE

end PipelineConfig
