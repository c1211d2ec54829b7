import PipelineConfig.Rules.Fetch

/-!
# Where fetch paths lead

The path of a fetch task is followed from pipeline to pipeline, each of them waiting for the next.
A task that fetches from elsewhere resolves when its path leads to a pipeline with the wanted stage
and job. Otherwise the search stops in one of four ways, and the task is told of this one alone.
-/

namespace PipelineConfig.FetchTask

/-- A path of pipelines, nearest first, leads upstream from one pipeline to another. -/
inductive Follows (scope : Scope) : Pipeline → List Name → Pipeline → Prop
  | arrived {target : Pipeline} : Follows scope target [] target
  | step {previous next target : Pipeline} {segment : Name} {rest : List Name}
      (waits : previous.upstreams.has segment = true) (found : scope.lookup? segment = some next)
      (onward : Follows scope next rest target) : Follows scope previous (segment :: rest) target

/-- The path of a task leads to a pipeline that runs the wanted job in the wanted stage. -/
def Resolves (fetch : FetchTask) (scope : Scope) (current : Pipeline) : Prop :=
  ∃ target stage, Follows scope current fetch.path.reverse target ∧
    findStage? (scope.stagesOf target) fetch.stage = some stage ∧ stage.hasJob fetch.job = true

/-- What stands between a task and what it fetches. -/
inductive Misses (fetch : FetchTask) (scope : Scope) (current : Pipeline) : Problem → Prop
  /-- The path steps to a pipeline that the one before it does not wait for. -/
  | notUpstream {walked rest : List Name} {segment : Name} {previous : Pipeline}
      (path : fetch.path.reverse = walked ++ segment :: rest)
      (walk : Follows scope current walked previous)
      (apart : previous.upstreams.has segment = false) :
      Misses fetch scope current (.fetchNotUpstream previous.name segment)
  /-- The path steps to a pipeline that does not exist. -/
  | unknownPipeline {walked rest : List Name} {segment : Name} {previous : Pipeline}
      (path : fetch.path.reverse = walked ++ segment :: rest)
      (walk : Follows scope current walked previous)
      (waits : previous.upstreams.has segment = true)
      (absent : scope.lookup? segment = none) :
      Misses fetch scope current (.fetchUnknownPipeline current.name segment)
  /-- The path leads to a pipeline without the stage. -/
  | unknownStage {target : Pipeline}
      (walk : Follows scope current fetch.path.reverse target)
      (absent : findStage? (scope.stagesOf target) fetch.stage = none) :
      Misses fetch scope current (.fetchUnknownStage current.name target.name fetch.stage)
  /-- The path leads to a pipeline whose stage lacks the job. -/
  | unknownJob {target : Pipeline} {stage : Stage}
      (walk : Follows scope current fetch.path.reverse target)
      (found : findStage? (scope.stagesOf target) fetch.stage = some stage)
      (absent : stage.hasJob fetch.job = false) :
      Misses fetch scope current (.fetchUnknownJob current.name target.name fetch.stage fetch.job)

variable {scope : Scope} {current previous target : Pipeline} {fetch : FetchTask}

/-! ## Following a path -/

theorem follow_eq_ok_iff {path : List Name} :
    follow scope current previous path = .ok target ↔ Follows scope previous path target := by
  induction path generalizing previous with
  | nil =>
    rw [follow, Except.ok.injEq]
    constructor
    · rintro rfl
      exact .arrived
    · rintro ⟨⟩
      rfl
  | cons segment rest ih =>
    rw [follow]
    cases waits : previous.upstreams.has segment with
    | false =>
      rw [Bool.not_false, if_pos rfl]
      refine iff_of_false (by simp) ?_
      rintro (_ | ⟨waits', _, _⟩)
      exact Bool.false_ne_true (waits.symm.trans waits')
    | true =>
      rw [Bool.not_true, if_neg Bool.false_ne_true]
      cases found : scope.lookup? segment with
      | none =>
        refine iff_of_false (by simp) ?_
        rintro (_ | ⟨_, found', _⟩)
        simp [found] at found'
      | some next =>
        dsimp only
        rw [ih]
        constructor
        · exact .step waits found
        · rintro (_ | ⟨_, found', onward⟩)
          obtain rfl := Option.some.inj (found.symm.trans found')
          exact onward

/-- A path that cannot be followed has a part that can, up to a pipeline that is in the way. -/
theorem split_of_follow {path : List Name} {problem : Problem}
    (stopped : follow scope current previous path = .error problem) :
    ∃ walked segment rest reached, path = walked ++ segment :: rest ∧
      Follows scope previous walked reached ∧
        (reached.upstreams.has segment = false ∧ problem = .fetchNotUpstream reached.name segment ∨
          reached.upstreams.has segment = true ∧ scope.lookup? segment = none ∧
            problem = .fetchUnknownPipeline current.name segment) := by
  induction path generalizing previous with
  | nil => simp [follow] at stopped
  | cons segment rest ih =>
    rw [follow] at stopped
    cases waits : previous.upstreams.has segment with
    | false =>
      rw [waits, Bool.not_false, if_pos rfl, Except.error.injEq] at stopped
      exact ⟨[], segment, rest, previous, rfl, .arrived, .inl ⟨waits, stopped.symm⟩⟩
    | true =>
      rw [waits, Bool.not_true, if_neg Bool.false_ne_true] at stopped
      cases found : scope.lookup? segment with
      | none =>
        rw [found, Except.error.injEq] at stopped
        exact ⟨[], segment, rest, previous, rfl, .arrived,
          .inr ⟨waits, found, stopped.symm⟩⟩
      | some next =>
        rw [found] at stopped
        obtain ⟨walked, further, rest, reached, rfl, walk, obstacle⟩ := ih stopped
        exact ⟨segment :: walked, further, rest, reached, rfl, .step waits found walk, obstacle⟩

/-- Scopes that look pipelines up alike follow a path alike. -/
theorem follow_eq_of_lookup? {left right : Scope}
    (sees : ∀ name, left.lookup? name = right.lookup? name) (path : List Name) :
    follow left current previous path = follow right current previous path := by
  induction path generalizing previous with
  | nil => rfl
  | cons segment rest ih =>
    rw [follow, follow, sees]
    cases right.lookup? segment with
    | none => rfl
    | some next => simp only [ih]

/-! ## What a task is told -/

theorem targetProblems_eq_nil_iff {stages : List Stage} :
    fetch.targetProblems stages current target = [] ↔
      ∃ stage, findStage? stages fetch.stage = some stage ∧ stage.hasJob fetch.job = true := by
  rw [targetProblems]
  cases findStage? stages fetch.stage with
  | none => simp
  | some stage => cases has : stage.hasJob fetch.job <;> simp [Problem.when, has]

/-- A task that fetches from elsewhere is told nothing just when it resolves. -/
theorem resolutionProblems_eq_nil_iff (elsewhere : fetch.isLocal current = false) :
    fetch.resolutionProblems scope current = [] ↔ fetch.Resolves scope current := by
  rw [resolutionProblems, elsewhere, if_neg Bool.false_ne_true]
  cases followed : follow scope current current fetch.path.reverse with
  | error problem =>
    refine iff_of_false (by simp) ?_
    rintro ⟨target, _, walk, _⟩
    simp [follow_eq_ok_iff.2 walk] at followed
  | ok target =>
    have walk := follow_eq_ok_iff.1 followed
    dsimp only
    rw [targetProblems_eq_nil_iff]
    constructor
    · rintro ⟨stage, found⟩
      exact ⟨target, stage, walk, found⟩
    · rintro ⟨other, stage, walk', found⟩
      obtain rfl := Except.ok.inj (followed.symm.trans (follow_eq_ok_iff.2 walk'))
      exact ⟨stage, found⟩

/-- A task that fetches from elsewhere is told of one thing at most. -/
theorem resolutionProblems_cases (elsewhere : fetch.isLocal current = false) :
    fetch.resolutionProblems scope current = [] ∨
      ∃ problem, fetch.resolutionProblems scope current = [problem] ∧
        fetch.Misses scope current problem := by
  rw [resolutionProblems, elsewhere, if_neg Bool.false_ne_true]
  cases followed : follow scope current current fetch.path.reverse with
  | error problem =>
    refine .inr ⟨problem, rfl, ?_⟩
    obtain ⟨walked, segment, rest, reached, path, walk, obstacle⟩ := split_of_follow followed
    rcases obstacle with ⟨apart, rfl⟩ | ⟨waits, absent, rfl⟩
    · exact .notUpstream path walk apart
    · exact .unknownPipeline path walk waits absent
  | ok target =>
    have walk := follow_eq_ok_iff.1 followed
    dsimp only
    rw [targetProblems]
    cases found : findStage? (scope.stagesOf target) fetch.stage with
    | none => exact .inr ⟨_, rfl, .unknownStage walk found⟩
    | some stage =>
      cases has : stage.hasJob fetch.job with
      | true => exact .inl (by simp [Problem.when, has])
      | false => exact .inr ⟨_, by simp [Problem.when, has], .unknownJob walk found has⟩

/-- Nesting does not matter to a task that fetches from elsewhere. -/
theorem resolutionProblems_within (elsewhere : fetch.isLocal current = false) (node : ScopeNode) :
    fetch.resolutionProblems (scope.within node) current =
      fetch.resolutionProblems scope current := by
  have sees (name : Name) : (scope.within node).lookup? name = scope.lookup? name := rfl
  have along : follow (scope.within node) current current fetch.path.reverse =
      follow scope current current fetch.path.reverse := follow_eq_of_lookup? sees _
  rw [resolutionProblems, resolutionProblems, elsewhere, if_neg Bool.false_ne_true,
    if_neg Bool.false_ne_true, along]
  rfl

/-- A task with nothing else wrong about it, not even a blank stage or job, is told what its target
is told, in a pipeline with stages of its own. -/
theorem problems_eq_resolutionProblems (form : fetch.formProblems scope = [])
    (own : scope.pipeline? = some current) (staged : current.template = none)
    (outside : scope.template? = none) :
    fetch.problems scope = fetch.resolutionProblems scope current := by
  have named : fetch.stage.isBlank = false ∧ fetch.job.isBlank = false := by
    simp only [formProblems, List.append_eq_nil_iff] at form
    constructor
    · cases blank : fetch.stage.isBlank with
      | false => rfl
      | true => simp [blank, Problem.when] at form
    · cases blank : fetch.job.isBlank with
      | false => rfl
      | true => simp [blank, Problem.when] at form
  have selfStaged : scope.isTemplated = false := by
    simp [Scope.isTemplated, own, Pipeline.hasTemplate, staged]
  rw [problems, form, List.nil_append, selfStaged, outside, named.1, named.2, own]
  rfl

end PipelineConfig.FetchTask
