import Pubsys.Aws.PromoteSsm.Combine

/-!
# promote-ssm: the run

`promote_ssm::run` as a function of what it reads from outside: Infra.toml, the template
file, the SSM service and the `ssm_parameter_output` file. All but the last are oracles that
may answer anything, errors included. The output file is the state the run leaves behind.

The functions `run` calls from the ssm, template and validate_ssm modules are not among the
modelled sources. Their results are the oracles' answers; the snapshot file's document and
its two conversions are rebuilt from the spec. A failed lookup (`m[&k]`) is a panic, kept
apart from the errors `run` returns.

`run_panics_on_up_to_date_target` is a run that panics in the merge of the snapshot: the
snapshot holds a source parameter whose target is already up to date, so the write set leaves
that target out and the merge's lookup of it fails. `run_file_of_set_error` says where the
snapshot is written: before the set step, so a run that fails to set or to validate has
already rewritten the file.
-/

namespace Pubsys.Aws.PromoteSsm

open Ssm

/-- The error a collaborator reports (`pubsys_config`, `ssm`, `template`, `serde_json`,
`std::io`), by its message. -/
structure Cause where
  message : String
deriving DecidableEq, Repr

/-- `promote_ssm::error::Error`. -/
inductive Error
  | config (source : Cause)
  | emptySource (version : String)
  | fetchSsm (source : Cause)
  | findTemplates (source : Cause)
  | missingConfig (missing : String)
  | renderTemplates (source : Cause)
  | setSsm (source : Cause)
  | validateSsm (source : Cause)
  | parseExistingSsmParameters (source : Cause) (path : String)
  | parseRenderedSsmParameters (source : Cause)
  | writeRenderedSsmParameters (path : String) (source : Cause)
deriving DecidableEq, Repr

/-- How a run ends badly: it returns an error, or a lookup panics. -/
inductive Failure
  | error (e : Error)
  | panic
deriving DecidableEq, Repr

/-- `PromoteArgs`. -/
structure PromoteArgs where
  arch : String
  variant : String
  source : String
  target : String
  regions : List String
  template_path : String
  ssm_parameter_output : Option String

/-- The fields of Infra.toml's `aws` section that `run` reads. -/
structure AwsConfig where
  regions : List String
  ssm_prefix : Option String

/-- Modelled from the spec: the JSON document of the `ssm_parameter_output` file, each
region name to its parameter values by name. -/
abbrev RenderedParameters := HashMap String (HashMap String String)

/-- The `ssm_parameter_output` file: a document, or the error reading it would give. -/
abbrev OutputFile := Except Cause RenderedParameters

/-- Modelled from the spec: `parse_expected_parameters` (validate_ssm module, absent). Each
parameter becomes the key of its name in its own region. -/
def parseExpectedParameters (file : OutputFile) : Except Cause (HashMap Region SsmParameters) :=
  file.map fun document => HashMap.collect <| document.entries.map fun (region, parameters) =>
    (⟨region⟩, HashMap.collect <| parameters.entries.map fun (name, value) =>
      (⟨⟨region⟩, name⟩, value))

/-- Modelled from the spec: `RenderedParametersMap::from` (template module, absent). -/
def renderedParameters (parameters : HashMap Region SsmParameters) : RenderedParameters :=
  HashMap.collect <| parameters.entries.map fun (region, region_parameters) =>
    (region.name, HashMap.collect <| region_parameters.entries.map fun (ssm_key, value) =>
      (ssm_key.name, value))

/-- The SSM service through the regional clients: `ssm::get_parameters`,
`ssm::set_parameters` and `ssm::validate_parameters`. -/
structure SsmService where
  get_parameters : List SsmKey → Except Cause SsmParameters
  set_parameters : SsmParameters → Except Cause Unit
  validate_parameters : SsmParameters → Except Cause Unit

/-- Everything `run` reads besides its arguments and the output file. -/
structure PromoteEnv where
  /-- `InfraConfig::from_path_or_lock`, its `aws` section. -/
  infra_config : Except Cause AwsConfig
  /-- `template::get_parameters`: the name templates for the build's arch and variant. -/
  get_parameters : String → BuildContext → Except Cause (List String)
  /-- `template::render_parameter_names`: template string to rendered name. -/
  render_parameter_names : List String → String → BuildContext →
    Except Cause (HashMap String String)
  ssm : SsmService
  /-- `File::create` on the output path. -/
  create_file : Except Cause Unit
  /-- `serde_json::to_writer_pretty` into the created file. -/
  write_file : Except Cause Unit

/-- What `run` has computed when it reaches the output file. -/
structure Promotion where
  source_target_map : HashMap String String
  set_parameters : SsmParameters

/-- `run` up to the diff: setup, rendering, fetching and diffing. `none` is an early
`Ok(())`: no templates for this arch and variant, or nothing to change. -/
def prepare (env : PromoteEnv) (args : PromoteArgs) : Except Failure (Option Promotion) := do
  let aws ← env.infra_config.mapError fun e => .error (.config e)
  let ssm_prefix := aws.ssm_prefix.getD ""
  let regions := (if !args.regions.isEmpty then args.regions else aws.regions).map Region.mk
  if regions.isEmpty then throw (.error (.missingConfig "aws.regions"))
  let source_build_context : BuildContext := ⟨args.variant, args.arch, args.source⟩
  let target_build_context : BuildContext := ⟨args.variant, args.arch, args.target⟩
  let template_parameters ← (env.get_parameters args.template_path source_build_context).mapError
    fun e => .error (.findTemplates e)
  if template_parameters.isEmpty then return none
  let source_parameter_map ← (env.render_parameter_names template_parameters ssm_prefix
    source_build_context).mapError fun e => .error (.renderTemplates e)
  let target_parameter_map ← (env.render_parameter_names template_parameters ssm_prefix
    target_build_context).mapError fun e => .error (.renderTemplates e)
  let source_keys := parameterKeys regions source_parameter_map
  let target_keys := parameterKeys regions target_parameter_map
  let current_source_parameters ← (env.ssm.get_parameters source_keys).mapError
    fun e => .error (.fetchSsm e)
  if current_source_parameters.isEmpty then throw (.error (.emptySource args.source))
  let current_target_parameters ← (env.ssm.get_parameters target_keys).mapError
    fun e => .error (.fetchSsm e)
  let source_target_map ← okOr (sourceTargetMap source_parameter_map target_parameter_map) .panic
  let set_parameters ← okOr (setParameters source_target_map current_source_parameters
    current_target_parameters) .panic
  if set_parameters.isEmpty then return none
  return some ⟨source_target_map, set_parameters⟩

/-- `write_rendered_parameters`, with the file it reads and rewrites as state. A write that
fails after `File::create` leaves a truncated file, which reads back as that error. -/
def writeRenderedParameters (env : PromoteEnv) (ssm_parameters_output : String)
    (file : OutputFile) (set_parameters : SsmParameters)
    (source_target_map : HashMap String String) : Except Failure Unit × OutputFile :=
  match parseExpectedParameters file with
  | .error e => (.error (.error (.parseExistingSsmParameters e ssm_parameters_output)), file)
  | .ok parsed_parameters =>
    match combineParameters parsed_parameters set_parameters source_target_map with
    | none => (.error .panic, file)
    | some combined_parameters =>
      match env.create_file with
      | .error e => (.error (.error (.writeRenderedSsmParameters ssm_parameters_output e)), file)
      | .ok () =>
        match env.write_file with
        | .error e => (.error (.error (.parseRenderedSsmParameters e)), .error e)
        | .ok () => (.ok (), .ok (renderedParameters combined_parameters))

/-- `promote_ssm::run`: how it ends, and the output file it leaves. -/
def run (env : PromoteEnv) (args : PromoteArgs) (file : OutputFile) :
    Except Failure Unit × OutputFile :=
  match prepare env args with
  | .error f => (.error f, file)
  | .ok none => (.ok (), file)
  | .ok (some ⟨source_target_map, set_parameters⟩) =>
    let (written, file) : Except Failure Unit × OutputFile := match args.ssm_parameter_output with
      | none => (.ok (), file)
      | some path => writeRenderedParameters env path file set_parameters source_target_map
    match written with
    | .error f => (.error f, file)
    | .ok () =>
      match env.ssm.set_parameters set_parameters with
      | .error e => (.error (.error (.setSsm e)), file)
      | .ok () =>
        match env.ssm.validate_parameters set_parameters with
        | .error e => (.error (.error (.validateSsm e)), file)
        | .ok () => (.ok (), file)

/-- A promotion of two templates, `t1` and `t2`, in region `r`, whose set step answers
`set_result`. Version `1` renders them `a1`, `a2` and version `2` renders them `b1`, `b2`; the
source values are `v1`, `v2`, and the target of `t1` already holds `v1`. -/
def twoTemplateEnv (set_result : Except Cause Unit) : PromoteEnv where
  infra_config := .ok ⟨["r"], none⟩
  get_parameters _ _ := .ok ["t1", "t2"]
  render_parameter_names _ _ context := .ok <|
    if context.image_version = "1" then ⟨[("t1", "a1"), ("t2", "a2")], by decide⟩
    else ⟨[("t1", "b1"), ("t2", "b2")], by decide⟩
  ssm :=
    { get_parameters := fun keys => .ok <|
        if keys.any (·.name == "a1") then
          ⟨[(⟨⟨"r"⟩, "a1"⟩, "v1"), (⟨⟨"r"⟩, "a2"⟩, "v2")], by decide⟩
        else ⟨[(⟨⟨"r"⟩, "b1"⟩, "v1")], by decide⟩
      set_parameters := fun _ => set_result
      validate_parameters := fun _ => .ok () }
  create_file := .ok ()
  write_file := .ok ()

/-- `promote-ssm --source 1 --target 2 --ssm-parameter-output out.json`. -/
def twoTemplateArgs : PromoteArgs :=
  ⟨"x86_64", "aws-dev", "1", "2", [], "defaults.toml", some "out.json"⟩

/-- The snapshot holds `a1`, a source parameter the run fetched. Its target `b1` is already up
to date, so the write set holds only `b2`, and the merge's lookup of `b1` in it panics. -/
theorem run_panics_on_up_to_date_target :
    (run (twoTemplateEnv (.ok ())) twoTemplateArgs
      (.ok ⟨[("r", ⟨[("a1", "v1")], by decide⟩)], by decide⟩)).1 = .error .panic :=
  rfl

/-- Everything before the snapshot file fails with an error of its own phase, never with one
of the set or validate steps. -/
theorem prepare_error (env : PromoteEnv) (args : PromoteArgs) :
    ErrorsIn (fun f => ∀ e, f ≠ .error (.setSsm e) ∧ f ≠ .error (.validateSsm e))
      (prepare env args) := by
  simp [prepare, errorsIn_ite]

/-- The write phase succeeds only by writing the merged snapshot. -/
theorem writeRenderedParameters_ok {env : PromoteEnv} {path : String} {file : OutputFile}
    {W : SsmParameters} {M : HashMap String String}
    (h : (writeRenderedParameters env path file W M).1 = .ok ()) :
    ∃ parsed combined, parseExpectedParameters file = .ok parsed ∧
      combineParameters parsed W M = some combined ∧
      (writeRenderedParameters env path file W M).2 = .ok (renderedParameters combined) := by
  unfold writeRenderedParameters at h ⊢
  rcases hparse : parseExpectedParameters file with _ | parsed <;> simp only [hparse] at h ⊢
  · contradiction
  rcases hcombine : combineParameters parsed W M with _ | combined <;>
    simp only [hcombine] at h ⊢
  · contradiction
  rcases hcreate : env.create_file with _ | _ <;> simp only [hcreate] at h ⊢
  · contradiction
  rcases hwrite : env.write_file with _ | _ <;> simp only [hwrite] at h ⊢
  · contradiction
  exact ⟨parsed, combined, rfl, hcombine, rfl⟩

theorem writeRenderedParameters_error {env : PromoteEnv} {path : String} {file : OutputFile}
    {W : SsmParameters} {M : HashMap String String} {f : Failure}
    (h : (writeRenderedParameters env path file W M).1 = .error f) (e : Cause) :
    f ≠ .error (.setSsm e) ∧ f ≠ .error (.validateSsm e) := by
  unfold writeRenderedParameters at h
  repeat' split at h
  all_goals first | contradiction | (cases h; simp)

/-- Where a failed set or validate step leaves the snapshot file: the snapshot has been
merged and written before the set step runs, so the file holds the merge of what it held
with the write set, not what it held before the run. -/
theorem run_file_of_set_error {env : PromoteEnv} {args : PromoteArgs} {file : OutputFile}
    {path : String} (hpath : args.ssm_parameter_output = some path) {e : Cause}
    (h : (run env args file).1 = .error (.error (.setSsm e)) ∨
      (run env args file).1 = .error (.error (.validateSsm e))) :
    ∃ p parsed combined, prepare env args = .ok (some p) ∧
      parseExpectedParameters file = .ok parsed ∧
      combineParameters parsed p.set_parameters p.source_target_map = some combined ∧
      (run env args file).2 = .ok (renderedParameters combined) := by
  unfold run at h ⊢
  rcases hp : prepare env args with f | _ | ⟨M, W⟩
  · simp only [hp] at h
    exact absurd h (by simpa using prepare_error env args f hp e)
  · simp [hp] at h
  simp only [hp, hpath] at h ⊢
  rcases hw : (writeRenderedParameters env path file W M).1 with f | _
  · simp only [hw] at h
    exact absurd h (by simpa using writeRenderedParameters_error hw e)
  obtain ⟨parsed, combined, hparse, hcombine, hfile⟩ := writeRenderedParameters_ok hw
  refine ⟨⟨M, W⟩, parsed, combined, rfl, hparse, hcombine, ?_⟩
  simp only [hw]
  split <;> [skip; split] <;> exact hfile

/-- The snapshot holds `a2` and the set step is throttled: the file holds the merge. -/
theorem run_file_of_set_error_throttled :
    twoTemplateArgs.ssm_parameter_output = some "out.json" ∧
    ((run (twoTemplateEnv (.error ⟨"throttled"⟩)) twoTemplateArgs
        (.ok ⟨[("r", ⟨[("a2", "v2")], by decide⟩)], by decide⟩)).1 =
      .error (.error (.setSsm ⟨"throttled"⟩)) ∨
    (run (twoTemplateEnv (.error ⟨"throttled"⟩)) twoTemplateArgs
        (.ok ⟨[("r", ⟨[("a2", "v2")], by decide⟩)], by decide⟩)).1 =
      .error (.error (.validateSsm ⟨"throttled"⟩))) ∧
    ∃ p parsed combined, prepare (twoTemplateEnv (.error ⟨"throttled"⟩)) twoTemplateArgs =
        .ok (some p) ∧
      parseExpectedParameters (.ok ⟨[("r", ⟨[("a2", "v2")], by decide⟩)], by decide⟩) =
        .ok parsed ∧
      combineParameters parsed p.set_parameters p.source_target_map = some combined ∧
      (run (twoTemplateEnv (.error ⟨"throttled"⟩)) twoTemplateArgs
        (.ok ⟨[("r", ⟨[("a2", "v2")], by decide⟩)], by decide⟩)).2 =
        .ok (renderedParameters combined) :=
  ⟨rfl, .inl rfl, run_file_of_set_error rfl (.inl rfl)⟩

/-- The snapshot holds `a2` and the set step fails: the run ends in `SetSsm`, and the file
then holds the promoted `b2`, which it did not hold before. -/
theorem run_set_error_rewrites_file :
    (run (twoTemplateEnv (.error ⟨"throttled"⟩)) twoTemplateArgs
        (.ok ⟨[("r", ⟨[("a2", "v2")], by decide⟩)], by decide⟩)).1 =
      .error (.error (.setSsm ⟨"throttled"⟩)) ∧
    ((run (twoTemplateEnv (.error ⟨"throttled"⟩)) twoTemplateArgs
        (.ok ⟨[("r", ⟨[("a2", "v2")], by decide⟩)], by decide⟩)).2.toOption.bind
      fun document => (document.get? "r").bind (·.get? "b2")) = some "v2" ∧
    ((Except.ok ⟨[("r", ⟨[("a2", "v2")], by decide⟩)], by decide⟩ : OutputFile).toOption.bind
      fun document => (document.get? "r").bind (·.get? "b2")) = none :=
  ⟨rfl, rfl, rfl⟩

end Pubsys.Aws.PromoteSsm
