import PipelineConfig.Proofs.Records

/-!
# Reading undoes writing

Every part of a configuration is read back from the value it is written as, without its recorded
messages. Materials and tasks share a record with their source and kind; the field `type` and the
names of the other fields keep the two apart.
-/

namespace PipelineConfig

open Document Fields

/-! ## Materials -/

namespace Source

/-- The word that a source of a kind is declared with. -/
def kindWord : Source → String
  | git .. => "git"
  | svn .. => "svn"
  | hg .. => "hg"
  | p4 .. => "p4"
  | tfs .. => "tfs"
  | dependency .. => "dependency"
  | package .. => "package"
  | pluggableScm .. => "pluggable_scm"

theorem isSettled_toFields (source : Source) :
    ∀ field ∈ source.toFields, ∀ value ∈ field.2, value.IsSettled := by
  cases source <;>
    simp [toFields, Value.ofName, Value.isSettled_text, Value.isSettled_bool,
      Value.isSettled_ofText?]

theorem kind?_toFields (source : Source) :
    kind? kinds (present source.toFields) = some source.kindWord := by
  cases source <;> simp [toFields, present_some, kind?, Value.choice?, kinds, kindWord] <;> rfl

theorem ofEntries?_toFields (source : Source) :
    ofEntries? source.kindWord (present source.toFields) = some source := by
  cases source <;>
    simp [toFields, kindWord, ofEntries?, known?_present, required?, default?, optional?]

end Source

namespace Material

/-- The fields of a material itself, next to those of its source. -/
def ownFields (material : Material) : List (String × Option Value) :=
  [("name", material.name.map .ofName), ("destination", material.destination.map .text),
    ("auto_update", some (.bool material.autoUpdate))]

/-- The names of these fields. -/
abbrev ownNames : List String := ["name", "destination", "auto_update"]

theorem distinct_fields (material : Material) :
    ((material.source.toFields ++ material.ownFields).map Prod.fst).Nodup := by
  obtain ⟨source, name, destination, autoUpdate, errors⟩ := material
  cases source <;> simp [Source.toFields, ownFields]

theorem source_apart (source : Source) :
    ∀ field ∈ source.toFields, ownNames.contains field.1 = false := by
  cases source <;> simp [Source.toFields]

theorem ownFields_own (material : Material) :
    ∀ field ∈ material.ownFields, ownNames.contains field.1 = true := by
  simp [ownFields]

theorem known?_own (material : Material) :
    known? ownNames (present (material.source.toFields ++ material.ownFields)) =
      some (present material.ownFields) := by
  have source : material.source.toFields.filter (fun field => ownNames.contains field.1) = [] :=
    List.filter_eq_nil_iff.2 fun field member => by
      rw [source_apart _ field member]
      exact Bool.false_ne_true
  have own := List.filter_eq_self.2 material.ownFields_own
  rw [known?_present material.distinct_fields, List.filter_append, source, own, List.nil_append]

theorem settledEntries?_others (material : Material) :
    settledEntries? ((present (material.source.toFields ++ material.ownFields)).filter
      fun entry => !ownNames.contains entry.1) = some (present material.source.toFields) := by
  have source : material.source.toFields.filter (fun field => !ownNames.contains field.1) =
      material.source.toFields :=
    List.filter_eq_self.2 fun field member => by rw [source_apart _ field member]; rfl
  have own : material.ownFields.filter (fun field => !ownNames.contains field.1) = [] :=
    List.filter_eq_nil_iff.2 fun field member => by rw [ownFields_own _ field member]; simp
  rw [filter_present (fun name => !ownNames.contains name), List.filter_append, source, own,
    List.append_nil, settledEntries?_present material.source.isSettled_toFields]

theorem undoes : Undoes ofValue? toValue clearErrors := by
  intro material
  have name_found : List.lookup "name" (present material.ownFields) =
      material.name.map Value.ofName := by
    simp [ownFields]
  have name : (present material.ownFields).optional? "name" Value.name? =
      some (material.name.map id) := optional?_of_lookup name_found fun _ => rfl
  have destination_found : List.lookup "destination" (present material.ownFields) =
      material.destination.map Value.text := by
    simp [ownFields]
  have destination : (present material.ownFields).optional? "destination" Value.text? =
      some (material.destination.map id) := optional?_of_lookup destination_found fun _ => rfl
  have autoUpdate : (present material.ownFields).default? "auto_update" true Value.bool? =
      some material.autoUpdate := by
    simp [ownFields, default?]
  have written : material.toValue = .record (material.source.toFields ++ material.ownFields) := rfl
  rw [ofValue?, written, entries?_record]
  simp only [Option.bind_eq_bind, Option.bind_some]
  rw [material.known?_own, material.settledEntries?_others]
  simp [material.source.kind?_toFields, material.source.ofEntries?_toFields, name, destination,
    autoUpdate, clearErrors]

end Material

/-! ## Tasks -/

theorem BuildTask.ofEntries?_toFields (build : BuildTask) (kind : Value) :
    ofEntries? (present (("type", some kind) :: build.toFields)) = some build := by
  simp [ofEntries?, toFields, known?_present, optional?, default?]

theorem FetchTask.ofFields?_toFields (fetch : FetchTask) :
    ofFields? (present fetch.toFields) = some fetch := by
  simp [ofFields?, toFields, required?, optional?, default?]

namespace TaskKind

/-- The word that a task of a kind is declared with. -/
def kindWord : TaskKind → String
  | exec .. => "exec"
  | ant _ => "ant"
  | nant _ => "nant"
  | rake _ => "rake"
  | fetch _ => "fetch"
  | pluggable .. => "pluggable"

theorem isSettled_toFields (kind : TaskKind) :
    ∀ field ∈ kind.toFields, ∀ value ∈ field.2, value.IsSettled := by
  cases kind <;>
    simp [toFields, BuildTask.toFields, FetchTask.toFields, Value.ofName, Value.isSettled_text,
      Value.isSettled_bool, Value.isSettled_ofText?, Value.isSettled_texts,
      Value.isSettled_ofTable]

theorem kind?_toFields (kind : TaskKind) :
    kind? kinds (present kind.toFields) = some kind.kindWord := by
  cases kind <;>
    simp [toFields, BuildTask.toFields, FetchTask.toFields, present_some, kind?, Value.choice?,
      kinds, kindWord] <;> rfl

theorem ofEntries?_toFields (kind : TaskKind) :
    ofEntries? kind.kindWord (present kind.toFields) = some kind := by
  cases kind with
  | exec command args workingDirectory =>
    have read := Undoes.text.list args
    simp [toFields, kindWord, ofEntries?, known?_present, required?, default?, optional?, read]
  | ant build | nant build | rake build =>
    simp [toFields, kindWord, ofEntries?, BuildTask.ofEntries?_toFields]
  | fetch artifact =>
    have known : known? FetchTask.fieldNames
        (present (("type", some (.text "fetch")) :: artifact.toFields)) =
          some (present artifact.toFields) := by
      simp [known?_present, FetchTask.toFields, FetchTask.fieldNames]
    simp [toFields, kindWord, ofEntries?, known, artifact.ofFields?_toFields]
  | pluggable pluginId configuration =>
    have read := Undoes.table configuration
    simp [toFields, kindWord, ofEntries?, known?_present, required?, default?, read]

end TaskKind

theorem Task.undoes : Undoes ofValue? toValue clearErrors := by
  intro task
  rw [ofValue?, toValue, entries?_record]
  simp [settledEntries?_present task.kind.isSettled_toFields, task.kind.kind?_toFields,
    task.kind.ofEntries?_toFields, clearErrors]

/-! ## Stages -/

theorem Job.undoes (format : Format) : Undoes (ofValue? format) toValue clearErrors := by
  intro job
  have tasks := Task.undoes.list job.tasks
  rw [ofValue?, toValue, fields?_record format (by rfl) (by decide)]
  simp [required?, default?, clearErrors, tasks]

theorem Stage.undoes (format : Format) : Undoes (ofValue? format) toValue clearErrors := by
  intro stage
  have jobs := (Job.undoes format).list stage.jobs
  rw [ofValue?, toValue, fields?_record format (by rfl) (by decide)]
  simp [required?, default?, clearErrors, jobs]

theorem Template.undoes (format : Format) : Undoes (ofValue? format) toValue clearErrors := by
  intro template
  have stages := (Stage.undoes format).list template.stages
  rw [ofValue?, toValue, fields?_record format (by rfl) (by decide)]
  simp [required?, default?, clearErrors, stages]

/-! ## Pipelines -/

theorem Parameter.undoes (format : Format) : Undoes (ofValue? format) toValue clearErrors := by
  intro parameter
  rw [ofValue?, toValue, fields?_record format (by rfl) (by decide)]
  simp [required?, default?, clearErrors]

theorem Variable.undoes (format : Format) : Undoes (ofValue? format) toValue clearErrors := by
  intro binding
  rw [ofValue?, toValue, fields?_record format (by rfl) (by decide)]
  simp [required?, default?, clearErrors]

theorem TrackingTool.undoes (format : Format) :
    Undoes (ofValue? format) toValue clearErrors := by
  intro tool
  rw [ofValue?, toValue, fields?_record format (by rfl) (by decide)]
  simp [required?, clearErrors]

theorem Mingle.undoes (format : Format) : Undoes (ofValue? format) toValue clearErrors := by
  intro mingle
  rw [ofValue?, toValue, fields?_record format (by rfl) (by decide)]
  simp [required?, optional?, default?, clearErrors]

theorem Timer.undoes (format : Format) : Undoes (ofValue? format) toValue clearErrors := by
  intro timer
  rw [ofValue?, toValue, fields?_record format (by rfl) (by decide)]
  simp [required?, default?, clearErrors]

theorem Materials.undoes :
    Undoes ofValue? (fun materials => .ofList Material.toValue materials.items) clearErrors := by
  intro materials
  have items := Material.undoes.list materials.items
  simp [ofValue?, items, clearErrors]

namespace Pipeline

/-- The fields that a pipeline is written with. -/
def toFields (pipeline : Pipeline) : List (String × Option Value) :=
  [("name", some (.ofName pipeline.name)),
    ("label_template", some (.text pipeline.labelTemplate)),
    ("materials", some (.ofList Material.toValue pipeline.materials.items)),
    ("stages", some (.ofList Stage.toValue pipeline.stages)),
    ("template", pipeline.template.map .ofName),
    ("params", Value.ofNonempty? Parameter.toValue pipeline.params),
    ("environment_variables", Value.ofNonempty? Variable.toValue pipeline.environmentVariables),
    ("tracking_tool", pipeline.trackingTool.map TrackingTool.toValue),
    ("mingle", pipeline.mingle.map Mingle.toValue),
    ("timer", pipeline.timer.map Timer.toValue)]

theorem template_toFields (pipeline : Pipeline) :
    (present pipeline.toFields).optional? "template" Value.name? =
      some (pipeline.template.map id) := by
  have found : List.lookup "template" (present pipeline.toFields) =
      pipeline.template.map Value.ofName := by simp [toFields]
  exact optional?_of_lookup found fun _ => rfl

theorem params_toFields (pipeline : Pipeline) (format : Format) :
    (present pipeline.toFields).default? "params" [] (Value.list? (Parameter.ofValue? format)) =
      some (pipeline.params.map Parameter.clearErrors) := by
  have found : List.lookup "params" (present pipeline.toFields) =
      Value.ofNonempty? Parameter.toValue pipeline.params := by simp [toFields]
  exact default?_of_lookup found (Parameter.undoes format)

theorem environmentVariables_toFields (pipeline : Pipeline) (format : Format) :
    (present pipeline.toFields).default? "environment_variables" []
        (Value.list? (Variable.ofValue? format)) =
      some (pipeline.environmentVariables.map Variable.clearErrors) := by
  have found : List.lookup "environment_variables" (present pipeline.toFields) =
      Value.ofNonempty? Variable.toValue pipeline.environmentVariables := by simp [toFields]
  exact default?_of_lookup found (Variable.undoes format)

theorem undoes (format : Format) : Undoes (ofValue? format) toValue clearErrors := by
  intro pipeline
  have materials := Materials.undoes pipeline.materials
  have stages := (Stage.undoes format).list pipeline.stages
  have trackingTool : (present pipeline.toFields).optional? "tracking_tool"
      (TrackingTool.ofValue? format) =
        some (pipeline.trackingTool.map TrackingTool.clearErrors) :=
    optional?_of_lookup_record (by simp [toFields]) (TrackingTool.undoes format) fun _ => ⟨_, rfl⟩
  have mingle : (present pipeline.toFields).optional? "mingle" (Mingle.ofValue? format) =
      some (pipeline.mingle.map Mingle.clearErrors) :=
    optional?_of_lookup_record (by simp [toFields]) (Mingle.undoes format) fun _ => ⟨_, rfl⟩
  have timer : (present pipeline.toFields).optional? "timer" (Timer.ofValue? format) =
      some (pipeline.timer.map Timer.clearErrors) :=
    optional?_of_lookup_record (by simp [toFields]) (Timer.undoes format) fun _ => ⟨_, rfl⟩
  have fields : pipeline.toValue.fields? format outline.names =
      some (present pipeline.toFields) :=
    fields?_record format rfl (by decide)
  rw [ofValue?, fields]
  simp only [Option.bind_eq_bind, Option.bind_some, pipeline.template_toFields,
    pipeline.params_toFields, pipeline.environmentVariables_toFields, trackingTool, mingle, timer]
  simp [toFields, required?, default?, materials, stages, clearErrors]

end Pipeline

/-! ## Configurations -/

/-- The group without recorded messages. -/
def Group.clearErrors (group : Group) : Group :=
  { group with pipelines := group.pipelines.map Pipeline.clearErrors }

theorem Group.undoes (format : Format) : Undoes (ofValue? format) toValue clearErrors := by
  intro group
  have pipelines := (Pipeline.undoes format).list group.pipelines
  rw [ofValue?, toValue, fields?_record format (by rfl) (by decide)]
  simp [required?, default?, pipelines, clearErrors]

theorem Environment.undoes (format : Format) : Undoes (ofValue? format) toValue id := by
  intro environment
  have pipelines := Undoes.name.list environment.pipelines
  rw [ofValue?, toValue, fields?_record format (by rfl) (by decide)]
  simp [required?, default?, pipelines]

theorem Role.undoes (format : Format) : Undoes (ofValue? format) toValue id := by
  intro role
  have users := Undoes.name.list role.users
  rw [ofValue?, toValue, fields?_record format (by rfl) (by decide)]
  simp [required?, default?, users]

theorem Security.undoes (format : Format) : Undoes (ofValue? format) toValue id := by
  intro security
  have admins := Undoes.name.list security.admins
  have roles := (Role.undoes format).list security.roles
  rw [ofValue?, toValue, fields?_record format (by rfl) (by decide)]
  simp [default?, admins, roles]

theorem Configuration.undoes (format : Format) : Undoes (ofValue? format) toValue clearErrors := by
  intro config
  have groups := (Group.undoes format).list config.groups
  have templates := (Template.undoes format).list config.templates
  have environments := (Environment.undoes format).list config.environments
  have security := Security.undoes format config.security
  rw [ofValue?, toValue, fields?_record format (by rfl) (by decide)]
  have cleared : config.clearErrors.groups = config.groups.map Group.clearErrors := rfl
  simp [default?, groups, templates, environments, security, ← cleared, clearErrors]

/-! ## Recorded messages -/

theorem ofList_map_clear {α : Type} {write : α → Value} {clear : α → α}
    (blind : ∀ item, write (clear item) = write item) (items : List α) :
    Value.ofList write (items.map clear) = Value.ofList write items := by
  simp [Value.ofList, Function.comp_def, blind]

theorem ofNonempty?_map_clear {α : Type} {write : α → Value} {clear : α → α}
    (blind : ∀ item, write (clear item) = write item) (items : List α) :
    Value.ofNonempty? write (items.map clear) = Value.ofNonempty? write items := by
  simp [Value.ofNonempty?, ofList_map_clear blind]

theorem Job.toValue_clearErrors (job : Job) : job.clearErrors.toValue = job.toValue := by
  have tasks := ofList_map_clear (fun task : Task => (rfl : task.clearErrors.toValue = _)) job.tasks
  simp only [toValue, clearErrors, tasks]

theorem Stage.toValue_clearErrors (stage : Stage) : stage.clearErrors.toValue = stage.toValue := by
  simp only [toValue, clearErrors, ofList_map_clear Job.toValue_clearErrors]

theorem Template.toValue_clearErrors (template : Template) :
    template.clearErrors.toValue = template.toValue := by
  simp only [toValue, clearErrors, ofList_map_clear Stage.toValue_clearErrors]

theorem Pipeline.toValue_clearErrors (pipeline : Pipeline) :
    pipeline.clearErrors.toValue = pipeline.toValue := by
  have materials := ofList_map_clear
    (fun material : Material => (rfl : material.clearErrors.toValue = _)) pipeline.materials.items
  have params := ofNonempty?_map_clear
    (fun parameter : Parameter => (rfl : parameter.clearErrors.toValue = _)) pipeline.params
  have bindings := ofNonempty?_map_clear
    (fun binding : Variable => (rfl : binding.clearErrors.toValue = _))
    pipeline.environmentVariables
  simp only [toValue, clearErrors, Materials.clearErrors, materials, params, bindings,
    ofList_map_clear Stage.toValue_clearErrors, Option.map_map]
  rfl

theorem Group.toValue_clearErrors (group : Group) : group.clearErrors.toValue = group.toValue := by
  simp only [toValue, clearErrors, ofList_map_clear Pipeline.toValue_clearErrors]

theorem Configuration.toValue_clearErrors (config : Configuration) :
    config.clearErrors.toValue = config.toValue := by
  have groups : Value.ofList Group.toValue config.clearErrors.groups =
      Value.ofList Group.toValue config.groups :=
    ofList_map_clear Group.toValue_clearErrors config.groups
  have templates : Value.ofList Template.toValue config.clearErrors.templates =
      Value.ofList Template.toValue config.templates :=
    ofList_map_clear Template.toValue_clearErrors config.templates
  rw [toValue, groups, templates]
  rfl

/-- A configuration is read back from what it is written as, without its recorded messages. So what
is written does not depend on these, and writing what was read gives the same value again. -/
theorem Configuration.ofValue?_toValue (format : Format) (config : Configuration) :
    ofValue? format config.toValue = some config.clearErrors ∧
      (∀ other : Configuration, other.clearErrors = config.clearErrors →
        other.toValue = config.toValue) ∧
        (ofValue? format config.toValue).map toValue = some config.toValue := by
  have read := Configuration.undoes format config
  refine ⟨read, fun other alike => ?_, ?_⟩
  · rw [← other.toValue_clearErrors, alike, config.toValue_clearErrors]
  · rw [read, Option.map_some, config.toValue_clearErrors]

end PipelineConfig
