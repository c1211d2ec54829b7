import PipelineConfig.Pipeline

/-!
# Configurations

A configuration is everything a server knows: groups of pipelines, templates, environments and
who may administer it.
-/

namespace PipelineConfig

/-- A named list of pipelines. -/
structure Group where
  /-- The name. -/
  name : String
  /-- The pipelines. -/
  pipelines : List Pipeline := []
deriving DecidableEq, Repr

/-- A set of machines and the pipelines that run there. -/
structure Environment where
  /-- The name. -/
  name : String
  /-- The pipelines that run there. -/
  pipelines : List Name := []
deriving DecidableEq, Repr

/-- A named list of users. -/
structure Role where
  /-- The name. -/
  name : Name
  /-- The users. -/
  users : List Name := []
deriving DecidableEq, Repr

/-- Who may administer the server. -/
structure Security where
  /-- The administrators. -/
  admins : List Name := []
  /-- The roles. -/
  roles : List Role := []
deriving DecidableEq, Repr

/-- A whole configuration. -/
structure Configuration where
  /-- The groups of pipelines. -/
  groups : List Group := []
  /-- The templates. -/
  templates : List Template := []
  /-- The environments. -/
  environments : List Environment := []
  /-- Who may administer the server. -/
  security : Security := {}
deriving DecidableEq, Repr

namespace Configuration

/-- Every declared pipeline after the name of its group. -/
def declarations (config : Configuration) : List (String × Pipeline) :=
  config.groups.flatMap fun group => group.pipelines.map fun pipeline => (group.name, pipeline)

/-- The first declaration of a pipeline. -/
def find? (config : Configuration) (name : Name) : Option (String × Pipeline) :=
  config.declarations.find? fun declared => declared.2.name.same name

/-- The first declared pipeline of a name. -/
def pipeline? (config : Configuration) (name : Name) : Option Pipeline :=
  (config.find? name).map Prod.snd

/-- The group of the first declared pipeline of a name. -/
def groupOf? (config : Configuration) (name : Name) : Option String :=
  (config.find? name).map Prod.fst

/-- The configuration without recorded messages on any node. -/
def clearErrors (config : Configuration) : Configuration :=
  { config with
    groups := config.groups.map fun group =>
      { group with pipelines := group.pipelines.map Pipeline.clearErrors }
    templates := config.templates.map Template.clearErrors }

end Configuration

end PipelineConfig
