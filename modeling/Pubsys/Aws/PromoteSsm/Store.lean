import Pubsys.Aws.PromoteSsm.Snapshot

/-!
# promote-ssm: promotion against a parameter store

`Renders` names what the setup of a run computes: the regions promoted in and the names the
templates render to for the source and target versions. Past the setup, `prepare` fetches,
joins and diffs (`prepare_of_renders`), and whatever SSM answers, as long as it returns only
parameters it was asked for, a run writes only target parameters of its own templates in its
own regions, each with the value of its template's fetched source (`prepare_writes_targets`).

SSM is then taken to be the parameter store the spec describes: a read answers with the
parameters the store holds among the keys asked for, and every write is applied. `promote` is
one step of a system whose state is the store and the `ssm_parameter_output` file, and
`Promotes` says what a step is for: in each region, each template's target parameter comes to
hold what its source parameter holds, and nothing else changes. On a store the write set is
the set of target parameters that do not hold their source's value yet (`OutOfDate`), so

* `promote_converges`: a promotion that ends well leaves the store promoted;
* `promote_idempotent`: running it again changes neither the store nor the file;
* `promote_panics_iff`: a promotion with something to write panics exactly when the snapshot
  holds a parameter that is not promotable in its region, among them every parameter whose
  target is already up to date.
-/

namespace Pubsys.Aws.PromoteSsm

open Ssm

/-- The parameters of `store` among `keys`. -/
def restrict (store : SsmParameters) (keys : List SsmKey) : SsmParameters :=
  store.filter fun key _ => decide (key ∈ keys)

@[simp] theorem get?_restrict (store : SsmParameters) (keys : List SsmKey) (key : SsmKey) :
    (restrict store keys).get? key = if key ∈ keys then store.get? key else none := by
  refine Option.ext fun v => ?_
  rw [Option.mem_def, Option.mem_def, restrict, HashMap.get?_filter]
  split_ifs with h <;> simp [h]

/-- Modelled from the spec: SSM as a parameter store (`ssm::get_parameters`,
`ssm::set_parameters`, `ssm::validate_parameters`, ssm module, absent). A read answers with
the parameters the store holds among the keys asked for; a write is applied, so a value
written reads back and validation passes. -/
def storeService (store : SsmParameters) : SsmService where
  get_parameters keys := .ok (restrict store keys)
  set_parameters _ := .ok ()
  validate_parameters _ := .ok ()

/-- A promotion against `store`: how `run` ends, the store it leaves (the write set applied
once the set step is reached) and the output file. -/
def promote (env : PromoteEnv) (args : PromoteArgs) (store : SsmParameters)
    (file : OutputFile) : Except Failure Unit × SsmParameters × OutputFile :=
  let env := { env with ssm := storeService store }
  match run env args file, prepare env args with
  | (.ok (), file), .ok (some p) => (.ok (), store.extend p.set_parameters.entries, file)
  | (outcome, file), _ => (outcome, store, file)

/-- The setup of a promotion succeeds: Infra.toml is read, `regions` are the regions promoted
in (the `--regions` override, else Infra.toml's; at least one), the template file has templates
for the build, and `src` and `tgt` are their names rendered for the source and target
versions. -/
def Renders (env : PromoteEnv) (args : PromoteArgs) (regions : List Region)
    (src tgt : HashMap String String) : Prop :=
  ∃ aws templates, env.infra_config = .ok aws ∧
    regions = (if !args.regions.isEmpty then args.regions else aws.regions).map Region.mk ∧
    regions ≠ [] ∧
    env.get_parameters args.template_path ⟨args.variant, args.arch, args.source⟩ = .ok templates ∧
    templates ≠ [] ∧
    env.render_parameter_names templates (aws.ssm_prefix.getD "")
      ⟨args.variant, args.arch, args.source⟩ = .ok src ∧
    env.render_parameter_names templates (aws.ssm_prefix.getD "")
      ⟨args.variant, args.arch, args.target⟩ = .ok tgt

/-- The two renderings pair up: every template rendered for the source is rendered for the
target, and each rendering gives distinct names. -/
structure Paired (src tgt : HashMap String String) : Prop where
  keys : ∀ t ∈ src.keys, t ∈ tgt.keys
  source_nodup : src.values.Nodup
  target_nodup : tgt.values.Nodup

/-- `key` is out of date with `v`: it is the target parameter, in a region promoted in, of a
template whose source parameter there holds `v`, and it does not hold `v` yet. -/
def OutOfDate (regions : List Region) (src tgt : HashMap String String) (store : SsmParameters)
    (key : SsmKey) (v : String) : Prop :=
  key.region ∈ regions ∧ ∃ t ns, src.get? t = some ns ∧ tgt.get? t = some key.name ∧
    store.get? ⟨key.region, ns⟩ = some v ∧ store.get? key ≠ some v

/-- What a promotion is for: in each region promoted in, each template's target parameter
holds what its source parameter held in `store`, where that exists; every parameter that was
not out of date keeps its value. -/
structure Promotes (regions : List Region) (src tgt : HashMap String String)
    (store store' : SsmParameters) : Prop where
  promoted : ∀ r ∈ regions, ∀ t ns nt v, src.get? t = some ns → tgt.get? t = some nt →
    store.get? ⟨r, ns⟩ = some v → store'.get? ⟨r, nt⟩ = some v
  unchanged : ∀ key, (∀ v, ¬OutOfDate regions src tgt store key v) →
    store'.get? key = store.get? key

/-- A persisted parameter named `name` that the merge can promote in region `r`: a source
parameter of the promotion whose promoted key is out of date. -/
def Promotable (regions : List Region) (src tgt : HashMap String String) (store : SsmParameters)
    (r : Region) (name : String) : Prop :=
  ∃ t nt w, src.get? t = some name ∧ tgt.get? t = some nt ∧
    OutOfDate regions src tgt store ⟨r, nt⟩ w

section

variable {env : PromoteEnv} {args : PromoteArgs} {regions : List Region}
  {src tgt : HashMap String String} {store : SsmParameters}

/-- Past its setup, `prepare` fetches both sides, joins the names and takes the diff. -/
theorem prepare_of_renders (hr : Renders env args regions src tgt) :
    prepare env args = do
      let S ← (env.ssm.get_parameters (parameterKeys regions src)).mapError
        fun e => .error (.fetchSsm e)
      if S.isEmpty then throw (.error (.emptySource args.source))
      let H ← (env.ssm.get_parameters (parameterKeys regions tgt)).mapError
        fun e => .error (.fetchSsm e)
      let stm ← okOr (sourceTargetMap src tgt) .panic
      let W ← okOr (setParameters stm S H) .panic
      if W.isEmpty then return none
      return some ⟨stm, W⟩ := by
  obtain ⟨aws, templates, hconfig, rfl, hne, htemplates, hnonempty, hsrc, htgt⟩ := hr
  simp only [ne_eq, List.map_eq_nil_iff, Bool.not_eq_true', List.isEmpty_eq_false, ite_not] at hne
  simp [prepare, hconfig, hne, htemplates, hnonempty, hsrc, htgt, bind, Except.bind, pure,
    Except.pure, Except.mapError]

/-- A run that gets past the diff got through its setup. -/
theorem renders_of_prepare {p : Promotion} (hp : prepare env args = .ok (some p)) :
    ∃ regions src tgt, Renders env args regions src tgt := by
  unfold prepare at hp
  rcases hc : env.infra_config with e | aws
  · simp [hc, Except.mapError, bind, Except.bind] at hp
  simp only [hc, Except.mapError, bind, Except.bind] at hp
  generalize hreg : (if !args.regions.isEmpty then args.regions else aws.regions) = names at hp
  by_cases hne : (names.map Region.mk).isEmpty = true
  · simp [hne, throw, throwThe, MonadExceptOf.throw] at hp
  simp only [hne, Bool.false_eq_true, ite_false, pure, Except.pure] at hp
  rcases ht : env.get_parameters args.template_path ⟨args.variant, args.arch, args.source⟩
    with e | templates
  · simp [ht] at hp
  simp only [ht] at hp
  by_cases hte : templates.isEmpty = true
  · simp [hte] at hp
  rcases hs : env.render_parameter_names templates (aws.ssm_prefix.getD "")
    ⟨args.variant, args.arch, args.source⟩ with e | src
  · simp [hte, hs] at hp
  rcases hg : env.render_parameter_names templates (aws.ssm_prefix.getD "")
    ⟨args.variant, args.arch, args.target⟩ with e | tgt
  · simp [hte, hs, hg] at hp
  exact ⟨_, src, tgt, aws, templates, hc, by rw [hreg], by simpa using hne, ht,
    by simpa using hte, hs, hg⟩

/-- The setup computes one set of regions and one pair of renderings. -/
theorem Renders.unique {regions' : List Region} {src' tgt' : HashMap String String}
    (h : Renders env args regions src tgt) (h' : Renders env args regions' src' tgt') :
    regions = regions' ∧ src = src' ∧ tgt = tgt' := by
  obtain ⟨aws, templates, hc, rfl, -, ht, -, hs, hg⟩ := h
  obtain ⟨aws', templates', hc', rfl, -, ht', -, hs', hg'⟩ := h'
  cases hc.symm.trans hc'
  cases ht.symm.trans ht'
  exact ⟨rfl, Except.ok.inj (hs.symm.trans hs'), Except.ok.inj (hg.symm.trans hg')⟩

/-- A run that gets past the diff joined the two renderings and diffed what SSM answered. -/
theorem prepare_eq_some (hr : Renders env args regions src tgt) {S H : SsmParameters}
    (hS : env.ssm.get_parameters (parameterKeys regions src) = .ok S)
    (hH : env.ssm.get_parameters (parameterKeys regions tgt) = .ok H) {p : Promotion}
    (hp : prepare env args = .ok (some p)) :
    sourceTargetMap src tgt = some p.source_target_map ∧
      setParameters p.source_target_map S H = some p.set_parameters := by
  rw [prepare_of_renders hr] at hp
  simp only [hS, hH, Except.mapError, bind, Except.bind, pure, Except.pure] at hp
  split_ifs at hp
  rcases hstm : sourceTargetMap src tgt with _ | stm
  · simp [hstm, okOr] at hp
  rcases hW : setParameters stm S H with _ | W
  · simp [hstm, hW, okOr] at hp
  simp only [hstm, hW, okOr] at hp
  split_ifs at hp <;> cases hp
  exact ⟨rfl, hW⟩

/-- On a store, whatever the renderings, each parameter of the write set is out of date. -/
theorem outOfDate_of_setParameters {stm : HashMap String String} {W : SsmParameters}
    (hstm : sourceTargetMap src tgt = some stm)
    (hW : setParameters stm (restrict store (parameterKeys regions src))
      (restrict store (parameterKeys regions tgt)) = some W) {key : SsmKey} {v : String}
    (hw : W.get? key = some v) : OutOfDate regions src tgt store key v := by
  obtain ⟨t, ns, hs, ht, hSv, hHv⟩ := get?_setParameters hstm hW hw
  rw [get?_restrict] at hSv
  split_ifs at hSv with hk
  have hr : key.region ∈ regions := (mem_parameterKeys.mp hk).1
  have htk : key ∈ parameterKeys regions tgt := mem_parameterKeys.mpr ⟨hr, t, ht⟩
  rw [get?_restrict, if_pos htk] at hHv
  exact ⟨hr, t, ns, hs, ht, hSv, hHv⟩

/-- The names the two-template promotion renders for its source and target versions. -/
def twoTemplateSource : HashMap String String := ⟨[("t1", "a1"), ("t2", "a2")], by decide⟩

def twoTemplateTarget : HashMap String String := ⟨[("t1", "b1"), ("t2", "b2")], by decide⟩

/-- The store the two-template promotion fetches from: `b1` already holds `a1`'s value. -/
def twoTemplateStore : SsmParameters :=
  ⟨[(⟨⟨"r"⟩, "a1"⟩, "v1"), (⟨⟨"r"⟩, "a2"⟩, "v2"), (⟨⟨"r"⟩, "b1"⟩, "v1")], by decide⟩

theorem renders_twoTemplateEnv (set_result : Except Cause Unit) :
    Renders (twoTemplateEnv set_result) twoTemplateArgs [⟨"r"⟩] twoTemplateSource
      twoTemplateTarget :=
  ⟨⟨["r"], none⟩, ["t1", "t2"], rfl, rfl, by decide, rfl, by decide, rfl, rfl⟩

theorem paired_twoTemplate : Paired twoTemplateSource twoTemplateTarget :=
  ⟨by decide, by decide, by decide⟩

/-- Whatever the templates render to, and whatever SSM answers as long as it returns only
parameters it was asked for, every parameter a run writes is, in a region promoted in, the
target parameter of a template whose fetched source parameter holds the value written, and the
live target holds another value. -/
theorem prepare_writes_targets (hr : Renders env args regions src tgt) {S H : SsmParameters}
    (hS : env.ssm.get_parameters (parameterKeys regions src) = .ok S)
    (hSkeys : ∀ key ∈ S.keys, key ∈ parameterKeys regions src)
    (hH : env.ssm.get_parameters (parameterKeys regions tgt) = .ok H) {p : Promotion}
    (hp : prepare env args = .ok (some p)) {key : SsmKey} {v : String}
    (hw : p.set_parameters.get? key = some v) :
    key.region ∈ regions ∧ (∃ t ns, src.get? t = some ns ∧ tgt.get? t = some key.name ∧
      S.get? ⟨key.region, ns⟩ = some v) ∧ H.get? key ≠ some v := by
  obtain ⟨hstm, hW⟩ := prepare_eq_some hr hS hH hp
  obtain ⟨t, ns, hs, ht, hSv, hHv⟩ := get?_setParameters hstm hW hw
  exact ⟨(mem_parameterKeys.mp (hSkeys _ (HashMap.mem_keys.mpr ⟨v, hSv⟩))).1,
    ⟨t, ns, hs, ht, hSv⟩, hHv⟩

/-- What SSM answers the two-template promotion: the source parameters `a1`, `a2`, and of the
targets only `b1`. -/
def twoTemplateFetched : SsmParameters :=
  ⟨[(⟨⟨"r"⟩, "a1"⟩, "v1"), (⟨⟨"r"⟩, "a2"⟩, "v2")], by decide⟩

def twoTemplateLive : SsmParameters := ⟨[(⟨⟨"r"⟩, "b1"⟩, "v1")], by decide⟩

/-- The one parameter the two-template promotion writes, `b2`, is the target of `t2`. -/
theorem prepare_writes_targets_b2 :
    Renders (twoTemplateEnv (.ok ())) twoTemplateArgs [⟨"r"⟩] twoTemplateSource
      twoTemplateTarget ∧
    (twoTemplateEnv (.ok ())).ssm.get_parameters (parameterKeys [⟨"r"⟩] twoTemplateSource) =
      .ok twoTemplateFetched ∧
    (∀ key ∈ twoTemplateFetched.keys, key ∈ parameterKeys [⟨"r"⟩] twoTemplateSource) ∧
    (twoTemplateEnv (.ok ())).ssm.get_parameters (parameterKeys [⟨"r"⟩] twoTemplateTarget) =
      .ok twoTemplateLive ∧
    prepare (twoTemplateEnv (.ok ())) twoTemplateArgs = .ok (some twoTemplatePromotion) ∧
    twoTemplatePromotion.set_parameters.get? ⟨⟨"r"⟩, "b2"⟩ = some "v2" ∧
    (⟨"r"⟩ : Region) ∈ [⟨"r"⟩] ∧ (∃ t ns, twoTemplateSource.get? t = some ns ∧
      twoTemplateTarget.get? t = some "b2" ∧ twoTemplateFetched.get? ⟨⟨"r"⟩, ns⟩ = some "v2") ∧
    twoTemplateLive.get? ⟨⟨"r"⟩, "b2"⟩ ≠ some "v2" :=
  ⟨renders_twoTemplateEnv _, rfl, by decide, rfl, rfl, rfl,
    @prepare_writes_targets (twoTemplateEnv (.ok ())) twoTemplateArgs [⟨"r"⟩] twoTemplateSource
      twoTemplateTarget (renders_twoTemplateEnv _) twoTemplateFetched twoTemplateLive rfl
      (by decide) rfl twoTemplatePromotion rfl ⟨⟨"r"⟩, "b2"⟩ "v2" rfl⟩

/-- On a store, the write set the code computes is exactly the set of out-of-date target
parameters. -/
theorem setParameters_restrict (hn : Paired src tgt) (regions : List Region)
    (store : SsmParameters) :
    ∃ stm W, sourceTargetMap src tgt = some stm ∧
      (∀ ns nt, stm.get? ns = some nt ↔ ∃ t, src.get? t = some ns ∧ tgt.get? t = some nt) ∧
      setParameters stm (restrict store (parameterKeys regions src))
        (restrict store (parameterKeys regions tgt)) = some W ∧
      ∀ key v, W.get? key = some v ↔ OutOfDate regions src tgt store key v := by
  have hS : ∀ key ∈ (restrict store (parameterKeys regions src)).keys,
      key ∈ parameterKeys regions src := fun key hk => by
    obtain ⟨v, hv⟩ := HashMap.mem_keys.mp hk
    rw [get?_restrict] at hv
    split_ifs at hv with hkey
    exact hkey
  obtain ⟨stm, W, hstm, hget, hW, hWget⟩ := exists_setParameters hn.keys hn.source_nodup
    hn.target_nodup hS (restrict store (parameterKeys regions tgt))
  refine ⟨stm, W, hstm, hget, hW, fun key v => ⟨outOfDate_of_setParameters hstm hW, ?_⟩⟩
  rintro ⟨hr, t, ns, hs, ht, hv, hH⟩
  have hsk : (⟨key.region, ns⟩ : SsmKey) ∈ parameterKeys regions src :=
    mem_parameterKeys.mpr ⟨hr, t, hs⟩
  have htk : key ∈ parameterKeys regions tgt := mem_parameterKeys.mpr ⟨hr, t, ht⟩
  refine (hWget key v).mpr ⟨⟨ns, (hget _ _).mpr ⟨t, hs, ht⟩, ?_⟩, ?_⟩
  · rwa [get?_restrict, if_pos hsk]
  · rwa [get?_restrict, if_pos htk]

/-- On a store, `prepare` stops with `EmptySource` when no source parameter exists, and
otherwise has the out-of-date parameters to write, or nothing to do. -/
theorem prepare_withStore (hr : Renders env args regions src tgt) {stm W}
    (hstm : sourceTargetMap src tgt = some stm)
    (hW : setParameters stm (restrict store (parameterKeys regions src))
      (restrict store (parameterKeys regions tgt)) = some W) :
    prepare { env with ssm := storeService store } args =
      if (restrict store (parameterKeys regions src)).isEmpty then
        .error (.error (.emptySource args.source))
      else .ok (if W.isEmpty then none else some ⟨stm, W⟩) := by
  rw [@prepare_of_renders { env with ssm := storeService store } args regions src tgt hr]
  simp only [storeService, Except.mapError, bind, Except.bind, hstm, hW, okOr]
  split_ifs <;> rfl

/-- A promotion ends as its run does. -/
theorem promote_fst (file : OutputFile) :
    (promote env args store file).1 = (run { env with ssm := storeService store } args file).1 := by
  unfold promote
  dsimp only
  split <;> simp_all

/-- What a promotion that ends well leaves in the store: its write set over the store. It got
past the check for an empty source, so some source parameter exists. -/
theorem get?_promote_of_ok (hr : Renders env args regions src tgt) {stm W}
    (hstm : sourceTargetMap src tgt = some stm)
    (hW : setParameters stm (restrict store (parameterKeys regions src))
      (restrict store (parameterKeys regions tgt)) = some W)
    {file : OutputFile} (h : (promote env args store file).1 = .ok ()) :
    (restrict store (parameterKeys regions src)).isEmpty = false ∧
      ∀ key, (promote env args store file).2.1.get? key = (W.get? key).or (store.get? key) := by
  have hp := prepare_withStore hr hstm hW
  unfold promote at h ⊢
  by_cases hS : (restrict store (parameterKeys regions src)).isEmpty
  · rw [if_pos hS] at hp
    simp [run, hp] at h
  rw [if_neg hS] at hp
  refine ⟨by simpa using hS, fun key => ?_⟩
  by_cases hWe : W.isEmpty
  -- nothing to write: the run stops before the set step
  · rw [if_pos hWe] at hp
    simp [run, hp, HashMap.isEmpty_iff.mp hWe]
  rw [if_neg hWe] at hp
  simp only [hp] at h ⊢
  split at h
  · rename_i hrun hpe
    cases hpe
    simp [hrun, HashMap.get?_extend_entries]
  · simp_all

/-- Writing the out-of-date parameters over the store promotes: each template's target
parameter then holds its source parameter's value. -/
theorem get?_or_of_outOfDate (htgtv : tgt.values.Nodup) {W : SsmParameters}
    (hW : ∀ key v, W.get? key = some v ↔ OutOfDate regions src tgt store key v) {r : Region}
    (hr : r ∈ regions) {t ns nt v : String} (hs : src.get? t = some ns)
    (ht : tgt.get? t = some nt) (hv : store.get? ⟨r, ns⟩ = some v) :
    (W.get? ⟨r, nt⟩).or (store.get? ⟨r, nt⟩) = some v := by
  cases hw : W.get? ⟨r, nt⟩ with
  | none =>
    rw [Option.none_or]
    by_contra hne
    simpa [hw] using (hW _ v).mpr ⟨hr, t, ns, hs, ht, hv, hne⟩
  | some w =>
    obtain ⟨-, t', ns', hs', ht', hv', -⟩ := (hW _ w).mp hw
    cases HashMap.eq_of_get?_eq_of_nodup_values htgtv ht ht'
    cases hs.symm.trans hs'
    simpa [hv] using hv'.symm

/-- The lookups the merge makes for a persisted parameter named `name` in region `r` succeed
exactly when it is promotable there. -/
theorem lookups_iff_promotable {stm : HashMap String String} {W : SsmParameters}
    (hget : ∀ ns nt, stm.get? ns = some nt ↔ ∃ t, src.get? t = some ns ∧ tgt.get? t = some nt)
    (hWget : ∀ key v, W.get? key = some v ↔ OutOfDate regions src tgt store key v) (r : Region)
    (name : String) :
    (∃ n w, stm.get? name = some n ∧ W.get? ⟨r, n⟩ = some w) ↔
      Promotable regions src tgt store r name := by
  simp only [hget, hWget, Promotable]
  constructor
  · rintro ⟨n, w, ⟨t, hs, ht⟩, hw⟩
    exact ⟨t, n, w, hs, ht, hw⟩
  · rintro ⟨t, n, w, hs, ht, hw⟩
    exact ⟨n, w, ⟨t, hs, ht⟩, hw⟩

/-- A promotion that ends well leaves the store promoted: in each region promoted in, each
template's target parameter holds what its source parameter held, and every parameter that was
not out of date keeps its value. -/
theorem promote_converges (hr : Renders env args regions src tgt) (hn : Paired src tgt)
    {file : OutputFile}
    (h : (promote env args store file).1 = .ok ()) :
    Promotes regions src tgt store (promote env args store file).2.1 := by
  obtain ⟨stm, W, hstm, -, hW, hWget⟩ := setParameters_restrict hn regions store
  obtain ⟨-, hget⟩ := get?_promote_of_ok hr hstm hW h
  refine ⟨fun r hr t ns nt v hs ht hv => ?_, fun key hkey => ?_⟩
  · rw [hget]
    exact get?_or_of_outOfDate hn.target_nodup hWget hr hs ht hv
  · rw [hget]
    cases hw : W.get? key with
    | none => rfl
    | some w => exact absurd ((hWget key w).mp hw) (hkey w)

/-- The two-template promotion against the store, with the snapshot holding `a2`: it ends well
and promotes the store. -/
theorem promote_converges_a2 :
    Renders (twoTemplateEnv (.ok ())) twoTemplateArgs [⟨"r"⟩] twoTemplateSource
      twoTemplateTarget ∧
    Paired twoTemplateSource twoTemplateTarget ∧
    (promote (twoTemplateEnv (.ok ())) twoTemplateArgs twoTemplateStore a2File).1 = .ok () ∧
    Promotes [⟨"r"⟩] twoTemplateSource twoTemplateTarget twoTemplateStore
      (promote (twoTemplateEnv (.ok ())) twoTemplateArgs twoTemplateStore a2File).2.1 :=
  ⟨renders_twoTemplateEnv _, paired_twoTemplate, rfl,
    promote_converges (renders_twoTemplateEnv _) paired_twoTemplate rfl⟩

/-- Promotion is idempotent: run again on the store and the file it left, a promotion that
ended well finds nothing out of date, ends well again and changes neither. No template's target
name may be the source name of another template. -/
theorem promote_idempotent (hr : Renders env args regions src tgt) (hn : Paired src tgt)
    (hcross : ∀ t t' n, src.get? t = some n → tgt.get? t' = some n → t = t') {file : OutputFile}
    (h : (promote env args store file).1 = .ok ()) :
    promote env args (promote env args store file).2.1 (promote env args store file).2.2 =
      (.ok (), (promote env args store file).2.1, (promote env args store file).2.2) := by
  obtain ⟨stm, W, hstm, -, hW, hWget⟩ := setParameters_restrict hn regions store
  obtain ⟨hS, hget⟩ := get?_promote_of_ok hr hstm hW h
  set store' := (promote env args store file).2.1
  set file' := (promote env args store file).2.2
  -- the source parameters were not written
  have hsrc : ∀ key ∈ parameterKeys regions src, store'.get? key = store.get? key := by
    intro key hk
    rw [hget]
    cases hw : W.get? key with
    | none => rfl
    | some w =>
      obtain ⟨-, t', ns', hs', ht', hv', hne⟩ := (hWget _ w).mp hw
      obtain ⟨-, t, hs⟩ := mem_parameterKeys.mp hk
      cases hcross t t' _ hs ht'
      cases hs.symm.trans hs'
      exact absurd hv' hne
  obtain ⟨stm', W', hstm', -, hW', hWget'⟩ :=
    setParameters_restrict hn regions store'
  cases hstm.symm.trans hstm'
  have hS' : (restrict store' (parameterKeys regions src)).isEmpty = false := by
    rw [Bool.eq_false_iff, ne_eq, HashMap.isEmpty_iff] at hS ⊢
    refine fun hnone => hS fun key => ?_
    have hkey := hnone key
    rw [get?_restrict] at hkey ⊢
    split_ifs at hkey ⊢ with hk
    · rwa [← hsrc key hk]
    · rfl
  -- nothing is out of date any more
  have hW'e : W'.isEmpty := HashMap.isEmpty_iff.mpr fun key => by
    cases hw : W'.get? key with
    | none => rfl
    | some v =>
      obtain ⟨hr, t, ns, hs, ht, hv, hne⟩ := (hWget' key v).mp hw
      rw [hsrc ⟨key.region, ns⟩ (mem_parameterKeys.mpr ⟨hr, t, hs⟩)] at hv
      exact absurd (by rw [hget]; exact get?_or_of_outOfDate hn.target_nodup hWget hr hs ht hv) hne
  have hp := prepare_withStore hr hstm hW'
  rw [if_neg (by simp [hS']), if_pos hW'e] at hp
  simp [promote, run, hp]

/-- No target name of the two-template promotion is a source name. -/
theorem twoTemplate_cross (t t' n : String) (hs : twoTemplateSource.get? t = some n)
    (ht : twoTemplateTarget.get? t' = some n) : t = t' := by
  have h₁ := HashMap.get?_eq_some_iff.mp hs
  have h₂ := HashMap.get?_eq_some_iff.mp ht
  simp only [twoTemplateSource, twoTemplateTarget, List.mem_cons, Prod.mk.injEq,
    List.not_mem_nil, or_false] at h₁ h₂
  rcases h₁ with ⟨rfl, rfl⟩ | ⟨rfl, rfl⟩ <;> rcases h₂ with ⟨-, h⟩ | ⟨-, h⟩ <;> simp at h

/-- The promotion of `a2` run twice: the second run changes nothing. -/
theorem promote_idempotent_a2 :
    Renders (twoTemplateEnv (.ok ())) twoTemplateArgs [⟨"r"⟩] twoTemplateSource
      twoTemplateTarget ∧
    Paired twoTemplateSource twoTemplateTarget ∧
    (∀ t t' n, twoTemplateSource.get? t = some n → twoTemplateTarget.get? t' = some n → t = t') ∧
    (promote (twoTemplateEnv (.ok ())) twoTemplateArgs twoTemplateStore a2File).1 = .ok () ∧
    promote (twoTemplateEnv (.ok ())) twoTemplateArgs
        (promote (twoTemplateEnv (.ok ())) twoTemplateArgs twoTemplateStore a2File).2.1
        (promote (twoTemplateEnv (.ok ())) twoTemplateArgs twoTemplateStore a2File).2.2 =
      (.ok (), (promote (twoTemplateEnv (.ok ())) twoTemplateArgs twoTemplateStore a2File).2.1,
        (promote (twoTemplateEnv (.ok ())) twoTemplateArgs twoTemplateStore a2File).2.2) :=
  ⟨renders_twoTemplateEnv _, paired_twoTemplate, twoTemplate_cross, rfl,
    promote_idempotent (renders_twoTemplateEnv _) paired_twoTemplate twoTemplate_cross rfl⟩

/-- When a promotion has something to write, it panics exactly when the snapshot it merges into
holds a parameter that is not promotable in its region: no source parameter of the promotion,
or one whose target the write set leaves out, because the source has no value there or because
the target already holds it. -/
theorem promote_panics_iff (hr : Renders env args regions src tgt) (hn : Paired src tgt)
    {path : String}
    (hpath : args.ssm_parameter_output = some path) {file : OutputFile}
    {P : HashMap Region SsmParameters} (hP : parseExpectedParameters file = .ok P)
    (hwrite : ∃ key v, OutOfDate regions src tgt store key v) :
    (promote env args store file).1 = .error .panic ↔ ∃ r ps k v, P.get? r = some ps ∧
      ps.get? k = some v ∧ ¬Promotable regions src tgt store r k.name := by
  obtain ⟨stm, W, hstm, hget, hW, hWget⟩ := setParameters_restrict hn regions store
  obtain ⟨key, v, hkv⟩ := hwrite
  -- there is a source value and something to write, so the run reaches the merge
  have hS : (restrict store (parameterKeys regions src)).isEmpty = false := by
    obtain ⟨hr', t, ns, hs, -, hv, -⟩ := hkv
    have hsk : (⟨key.region, ns⟩ : SsmKey) ∈ parameterKeys regions src :=
      mem_parameterKeys.mpr ⟨hr', t, hs⟩
    exact HashMap.isEmpty_eq_false_of_get? (k := ⟨key.region, ns⟩) (v := v)
      (by rwa [get?_restrict, if_pos hsk])
  have hWne : W.isEmpty = false := HashMap.isEmpty_eq_false_of_get? ((hWget key v).mpr hkv)
  have hp := prepare_withStore hr hstm hW
  rw [if_neg (by simp [hS]), if_neg (by simp [hWne])] at hp
  have hcombine : combineParameters P W stm = none ↔ ∃ r ps k v, P.get? r = some ps ∧
      ps.get? k = some v ∧ ¬Promotable regions src tgt store r k.name := by
    rw [← Option.not_isSome_iff_eq_none, combineParameters, foldlM_combineStep_isSome_iff]
    simp only [lookups_iff_promotable hget hWget, not_forall, exists_prop]
    constructor
    · rintro ⟨⟨r, k, v⟩, htr, hnp⟩
      obtain ⟨ps, hps, hk⟩ := mem_snapshotEntries.mp htr
      exact ⟨r, ps, k, v, hps, hk, hnp⟩
    · rintro ⟨r, ps, k, v, hps, hk, hnp⟩
      exact ⟨⟨r, k, v⟩, mem_snapshotEntries.mpr ⟨ps, hps, hk⟩, hnp⟩
  rw [promote_fst, run_eq_panic_iff, hp, ← hcombine]
  constructor
  · rintro (h | ⟨p, path', P', hp', -, hP', hc⟩)
    · cases h
    · cases hp'
      cases hP.symm.trans hP'
      exact hc
  · exact fun hc => .inr ⟨_, path, P, rfl, hpath, hP, hc⟩

end

/-- The snapshot holding `a1`, as the file and as read back. -/
def a1File : OutputFile := .ok ⟨[("r", ⟨[("a1", "v1")], by decide⟩)], by decide⟩

def a1Snapshot : HashMap Region SsmParameters :=
  ⟨[(⟨"r"⟩, ⟨[(⟨⟨"r"⟩, "a1"⟩, "v1")], by decide⟩)], by decide⟩

theorem outOfDate_b2 :
    OutOfDate [⟨"r"⟩] twoTemplateSource twoTemplateTarget twoTemplateStore ⟨⟨"r"⟩, "b2"⟩ "v2" :=
  ⟨List.mem_singleton_self _, "t2", "a2", rfl, rfl, rfl, by decide⟩

/-- The promotion with the snapshot holding `a1`, whose target `b1` is up to date. -/
theorem promote_panics_iff_a1 :
    Renders (twoTemplateEnv (.ok ())) twoTemplateArgs [⟨"r"⟩] twoTemplateSource
      twoTemplateTarget ∧
    Paired twoTemplateSource twoTemplateTarget ∧
    twoTemplateArgs.ssm_parameter_output = some "out.json" ∧
    parseExpectedParameters a1File = .ok a1Snapshot ∧
    (∃ key v, OutOfDate [⟨"r"⟩] twoTemplateSource twoTemplateTarget twoTemplateStore key v) ∧
    ((promote (twoTemplateEnv (.ok ())) twoTemplateArgs twoTemplateStore a1File).1 = .error .panic ↔
      ∃ r ps k v, a1Snapshot.get? r = some ps ∧ ps.get? k = some v ∧
        ¬Promotable [⟨"r"⟩] twoTemplateSource twoTemplateTarget twoTemplateStore r k.name) :=
  ⟨renders_twoTemplateEnv _, paired_twoTemplate, rfl, rfl, ⟨_, _, outOfDate_b2⟩,
    promote_panics_iff (renders_twoTemplateEnv _) paired_twoTemplate rfl rfl ⟨_, _, outOfDate_b2⟩⟩

end Pubsys.Aws.PromoteSsm
