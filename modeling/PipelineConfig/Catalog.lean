import PipelineConfig.Configuration
import PipelineConfig.Material.Fingerprint

/-!
# Catalogs

A catalog holds the committed pipelines together with tables derived from them: who uses a source,
who is upstream of whom, who is downstream. `insert` replaces one pipeline and repairs the derived
tables: what the pipeline contributed before is taken away, what it contributes now is added.
-/

namespace PipelineConfig

/-- A committed pipeline with its group. -/
structure Entry where
  /-- The name of the group. -/
  group : String
  /-- The pipeline. -/
  pipeline : Pipeline
deriving DecidableEq, Repr

/-- One material as one pipeline declares it. -/
structure Use where
  /-- The declaring pipeline. -/
  pipeline : Pipeline
  /-- The place among the pipeline's materials. -/
  position : Nat
  /-- The material at that place. -/
  material : Material
deriving DecidableEq, Repr

/-- The committed pipelines and the tables derived from them. -/
structure Catalog where
  /-- The pipelines by name. -/
  entries : Table Name Entry := ∅
  /-- The declarations of each source, by fingerprint. -/
  uses : Table String (List Use) := ∅
  /-- The pipelines that each pipeline waits for. -/
  upstreams : Table Name NameSet := ∅
  /-- The pipelines that wait for each pipeline. -/
  downstreams : Table Name NameSet := ∅
  /-- The templates by name. -/
  templates : Table Name Template := ∅
  /-- The environment that runs each pipeline. -/
  environments : Table Name String := ∅
  /-- Who may administer the server. -/
  security : Security := {}
deriving DecidableEq, Repr

namespace Catalog

/-- Take the declarations of one pipeline out of the uses of a source. -/
def dropUses (uses : Table String (List Use)) (fingerprint : String) (name : Name) :
    Table String (List Use) :=
  match uses.get? fingerprint with
  | none => uses
  | some bucket =>
    let kept := bucket.filter fun use => !use.pipeline.name.same name
    if kept.isEmpty then uses.erase fingerprint else uses.insert fingerprint kept

/-- Add a declaration at the end of the uses of its source. -/
def addUse (uses : Table String (List Use)) (use : Use) : Table String (List Use) :=
  let fingerprint := use.material.fingerprint
  uses.insert fingerprint ((uses.get? fingerprint).getD [] ++ [use])

/-- The declarations of a pipeline in their order. -/
def usesOf (pipeline : Pipeline) : List Use :=
  pipeline.materials.items.mapIdx fun position material => ⟨pipeline, position, material⟩

/-- Take a pipeline out of those that wait for an upstream pipeline. -/
def dropDownstream (downstreams : Table Name NameSet) (upstream name : Name) :
    Table Name NameSet :=
  match downstreams.get? upstream with
  | none => downstreams
  | some names =>
    let kept := names.erase name
    if kept.isEmpty then downstreams.erase upstream else downstreams.insert upstream kept

/-- Add a pipeline to those that wait for an upstream pipeline. -/
def addDownstream (downstreams : Table Name NameSet) (upstream name : Name) :
    Table Name NameSet :=
  downstreams.insert upstream (((downstreams.get? upstream).getD ∅).add name)

/-- Commit a pipeline to a group, in place of any pipeline of its name. -/
def insert (catalog : Catalog) (pipeline : Pipeline) (group : String) : Catalog :=
  let name := pipeline.name
  let stale := ((catalog.entries.get? name).map fun entry => entry.pipeline.materials.items).getD []
  let keptUses := stale.foldl (fun uses material => dropUses uses material.fingerprint name)
    catalog.uses
  let former := ((catalog.upstreams.get? name).getD ∅).toList
  let keptDownstreams := former.foldl (fun table upstream => dropDownstream table upstream name)
    catalog.downstreams
  { catalog with
    entries := catalog.entries.insert name ⟨group, pipeline⟩
    uses := (usesOf pipeline).foldl addUse keptUses
    upstreams := catalog.upstreams.put name pipeline.upstreams
    downstreams := pipeline.upstreams.toList.foldl
      (fun table upstream => addDownstream table upstream name) keptDownstreams }

/-- The catalog of a configuration. Of several declarations of a name the last counts. -/
def ofConfiguration (config : Configuration) : Catalog :=
  let committed := config.declarations.foldl
    (fun catalog declared => catalog.insert declared.2 declared.1)
    { security := config.security : Catalog }
  { committed with
    templates := config.templates.foldl
      (fun table template => table.insert template.name template) ∅
    environments := config.environments.foldl
      (fun table environment => environment.pipelines.foldl
        (fun table pipeline => table.insert pipeline environment.name) table) ∅ }

/-- The committed pipeline of a name with its group. -/
def entry? (catalog : Catalog) (name : Name) : Option Entry := catalog.entries.get? name

/-- The committed pipeline of a name. -/
def pipeline? (catalog : Catalog) (name : Name) : Option Pipeline :=
  catalog.entry? name |>.map Entry.pipeline

/-- Whether a pipeline of this name is committed. -/
def contains (catalog : Catalog) (name : Name) : Bool := catalog.entries.contains name

/-- The group of a committed pipeline. -/
def groupOf? (catalog : Catalog) (name : Name) : Option String :=
  catalog.entry? name |>.map Entry.group

/-- The names of the committed pipelines in order. -/
def names (catalog : Catalog) : List Name := catalog.entries.keys

/-- The number of committed pipelines. -/
def size (catalog : Catalog) : Nat := catalog.entries.size

/-- The declarations of a source, oldest commit first. -/
def usesAt (catalog : Catalog) (fingerprint : String) : List Use :=
  (catalog.uses.get? fingerprint).getD []

/-- The pipelines that a committed pipeline waits for. -/
def upstreamsOf (catalog : Catalog) (name : Name) : NameSet := (catalog.upstreams.get? name).getD ∅

/-- The committed pipelines that wait for a pipeline. -/
def downstreamsOf (catalog : Catalog) (name : Name) : NameSet :=
  (catalog.downstreams.get? name).getD ∅

/-- The template of a name. -/
def template? (catalog : Catalog) (name : Name) : Option Template := catalog.templates.get? name

/-- Whether there is a template of this name. -/
def hasTemplate (catalog : Catalog) (name : Name) : Bool := catalog.templates.contains name

/-- The stages a pipeline runs: its own, or those of the template it references. -/
def stagesOf (catalog : Catalog) (pipeline : Pipeline) : List Stage :=
  match pipeline.template with
  | some template => ((catalog.template? template).map Template.stages).getD []
  | none => pipeline.stages

/-- The environment that runs a pipeline. -/
def environmentOf? (catalog : Catalog) (name : Name) : Option String :=
  catalog.environments.get? name

end Catalog

end PipelineConfig
