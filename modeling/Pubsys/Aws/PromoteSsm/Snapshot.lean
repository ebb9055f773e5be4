import Pubsys.Aws.PromoteSsm.Run

/-!
# promote-ssm: the snapshot file across runs

The `ssm_parameter_output` file is state that outlives a run: each run that reaches its write
phase reads it, merges its own write set in and writes the merge back, and the next run reads
what that one wrote. A run panics only in its setup or in that merge
(`run_eq_panic_iff`), and the merge panics on any persisted parameter whose name is not a
source name of the run, or whose promoted key the run does not write.

`run_rerun_panics` follows a file through two runs. Once a run has written a merged snapshot
of a non-empty snapshot, the file holds that run's target names; a later run with the same
output path whose source names include none of them panics as soon as it reaches its write
phase. In particular a promotion that failed at its set or validate step cannot be run again
on the same file.
-/

namespace Pubsys.Aws.PromoteSsm

open Ssm

/-- The write phase panics only in the merge. -/
theorem writeRenderedParameters_eq_panic_iff {env : PromoteEnv} {path : String}
    {file : OutputFile} {W : SsmParameters} {M : HashMap String String} :
    (writeRenderedParameters env path file W M).1 = .error .panic ↔
      ∃ P, parseExpectedParameters file = .ok P ∧ combineParameters P W M = none := by
  unfold writeRenderedParameters
  cases parseExpectedParameters file with
  | error e => simp
  | ok P =>
    simp only [Except.ok.injEq, exists_eq_left']
    cases combineParameters P W M with
    | none => simp
    | some C =>
      simp only [reduceCtorEq, iff_false]
      cases env.create_file <;> cases env.write_file <;> simp

/-- A run panics in its setup, or in the merge of the snapshot it reads. -/
theorem run_eq_panic_iff {env : PromoteEnv} {args : PromoteArgs} {file : OutputFile} :
    (run env args file).1 = .error .panic ↔ prepare env args = .error .panic ∨
      ∃ p path P, prepare env args = .ok (some p) ∧ args.ssm_parameter_output = some path ∧
        parseExpectedParameters file = .ok P ∧
        combineParameters P p.set_parameters p.source_target_map = none := by
  unfold run
  rcases hp : prepare env args with f | _ | ⟨M, W⟩
  · simp
  · simp
  simp only [reduceCtorEq, Except.ok.injEq, Option.some.injEq, false_or, exists_eq_left']
  cases hout : args.ssm_parameter_output with
  | none =>
    simp only [reduceCtorEq, false_and, exists_false, iff_false]
    cases env.ssm.set_parameters W <;> cases env.ssm.validate_parameters W <;> simp
  | some path =>
    simp only [Option.some.injEq, exists_and_left, exists_eq_left']
    rw [← writeRenderedParameters_eq_panic_iff]
    rcases (writeRenderedParameters env path file W M).1 with f | _
    · simp
    simp only [reduceCtorEq, iff_false]
    cases env.ssm.set_parameters W <;> cases env.ssm.validate_parameters W <;> simp

/-- Reading back a written snapshot: every key of a region comes back under its name, in that
region. -/
theorem mem_keys_parse_renderedParameters {C : HashMap Region SsmParameters} {r : Region}
    {cs : SsmParameters} (hr : C.get? r = some cs) {key : SsmKey} (hk : key ∈ cs.keys) :
    ∃ P ps, parseExpectedParameters (.ok (renderedParameters C)) = .ok P ∧ P.get? r = some ps ∧
      (⟨r, key.name⟩ : SsmKey) ∈ ps.keys := by
  obtain ⟨v, hv⟩ := HashMap.mem_keys.mp hk
  let rp : HashMap String String :=
    HashMap.collect <| cs.entries.map fun (ssm_key, value) => (ssm_key.name, value)
  have hnames : (C.keys.map Region.name).Nodup := C.nodup_keys.map fun _ _ h => congrArg Region.mk h
  have hdoc : (renderedParameters C).get? r.name = some rp := by
    rw [renderedParameters, HashMap.get?_collect_of_nodup (by simpa [HashMap.keys, List.map_map,
      Function.comp_def] using hnames)]
    exact List.mem_map.mpr ⟨(r, cs), HashMap.get?_eq_some_iff.mp hr, rfl⟩
  have hregions : ((renderedParameters C).keys.map Region.mk).Nodup :=
    (renderedParameters C).nodup_keys.map fun _ _ h => Region.mk.inj h
  have hname : key.name ∈ rp.keys := HashMap.mem_keys_collect.mpr
    ⟨v, List.mem_map.mpr ⟨(key, v), HashMap.get?_eq_some_iff.mp hv, rfl⟩⟩
  obtain ⟨w, hw⟩ := HashMap.mem_keys.mp hname
  refine ⟨_, _, rfl, (HashMap.get?_collect_of_nodup ?_).mpr (List.mem_map.mpr
    ⟨(r.name, rp), HashMap.get?_eq_some_iff.mp hdoc, rfl⟩), HashMap.mem_keys_collect.mpr
    ⟨w, List.mem_map.mpr ⟨(key.name, w), HashMap.get?_eq_some_iff.mp hw, rfl⟩⟩⟩
  simpa [HashMap.keys, List.map_map, Function.comp_def] using hregions

/-- A merged region holds the promoted key of each of its persisted parameters. -/
theorem promoted_mem_keys_combineParameters {P C : HashMap Region SsmParameters}
    {W : SsmParameters} {M : HashMap String String} (h : combineParameters P W M = some C)
    {r : Region} {ps : SsmParameters} (hps : P.get? r = some ps) {k : SsmKey} {v : String}
    (hk : ps.get? k = some v) :
    ∃ cs n, C.get? r = some cs ∧ M.get? k.name = some n ∧ (⟨r, n⟩ : SsmKey) ∈ cs.keys := by
  obtain ⟨n, w, hn, hw⟩ := foldlM_combineStep_defined _ h ⟨r, k, v⟩
    (mem_snapshotEntries.mpr ⟨ps, hps, hk⟩)
  obtain ⟨L, hL, hLmem⟩ := (get?_combineParameters h r).2 ps hps
    (List.ne_nil_of_mem (HashMap.get?_eq_some_iff.mp hk))
  exact ⟨_, n, hL, hn, HashMap.mem_keys_collect.mpr
    ⟨w, (hLmem _ w).mpr (.inr ⟨⟨k, HashMap.mem_keys.mpr ⟨v, hk⟩, n, hn, rfl⟩, hw⟩)⟩⟩

/-- Two runs on one output file. The first reaches its set step (it ends well, or fails to set
or to validate) after merging a non-empty snapshot, so it leaves the file holding its target
names. A second run that reaches its write phase, and has none of those names among its
source names, then panics in its merge. -/
theorem run_rerun_panics {env₁ env₂ : PromoteEnv} {args₁ args₂ : PromoteArgs} {path : String}
    {file : OutputFile} {p₁ p₂ : Promotion} {P : HashMap Region SsmParameters}
    (hpath₁ : args₁.ssm_parameter_output = some path)
    (hpath₂ : args₂.ssm_parameter_output = some path)
    (hp₁ : prepare env₁ args₁ = .ok (some p₁))
    (hset : (run env₁ args₁ file).1 = .ok () ∨ ∃ e,
      (run env₁ args₁ file).1 = .error (.error (.setSsm e)) ∨
      (run env₁ args₁ file).1 = .error (.error (.validateSsm e)))
    (hP : parseExpectedParameters file = .ok P) (hne : ∃ r ps, P.get? r = some ps ∧ ps.entries ≠ [])
    (hp₂ : prepare env₂ args₂ = .ok (some p₂))
    (hdisj : ∀ n ∈ p₁.source_target_map.values, n ∉ p₂.source_target_map.keys) :
    (run env₂ args₂ (run env₁ args₁ file).2).1 = .error .panic := by
  obtain ⟨M₁, W₁⟩ := p₁
  -- the first run got past its write phase, so the file holds its merged snapshot
  have hw : (writeRenderedParameters env₁ path file W₁ M₁).1 = .ok () := by
    unfold run at hset
    simp only [hp₁, hpath₁] at hset
    rcases hw : (writeRenderedParameters env₁ path file W₁ M₁).1 with f | _
    · simp only [hw] at hset
      obtain ⟨e, he | he⟩ := hset.resolve_left (by simp)
      · exact absurd he (by simpa using (writeRenderedParameters_error hw e).1)
      · exact absurd he (by simpa using (writeRenderedParameters_error hw e).2)
    · rfl
  obtain ⟨P₁, C₁, hP₁, hC₁, hfile⟩ := writeRenderedParameters_ok hw
  cases hP.symm.trans hP₁
  have hfile₁ : (run env₁ args₁ file).2 = .ok (renderedParameters C₁) := by
    unfold run
    simp only [hp₁, hpath₁, hw]
    split <;> [skip; split] <;> exact hfile
  -- it holds the promoted key of a persisted parameter, a target name of the first run
  obtain ⟨r, ps, hps, hpsne⟩ := hne
  obtain ⟨⟨k, v⟩, hkv⟩ := List.exists_mem_of_ne_nil _ hpsne
  obtain ⟨cs, n, hcs, hn, hkey⟩ :=
    promoted_mem_keys_combineParameters hC₁ hps (HashMap.get?_eq_some_iff.mpr hkv)
  obtain ⟨P₂, ps₂, hP₂, hps₂, hkey₂⟩ := mem_keys_parse_renderedParameters hcs hkey
  obtain ⟨w, hw₂⟩ := HashMap.mem_keys.mp hkey₂
  -- which the second run's merge cannot look up
  have hnone : p₂.source_target_map.get? n = none := HashMap.get?_eq_none_iff.mpr
    (hdisj n (HashMap.mem_values.mpr ⟨k.name, hn⟩))
  refine run_eq_panic_iff.mpr (.inr ⟨p₂, path, P₂, hp₂, hpath₂, hfile₁ ▸ hP₂, ?_⟩)
  rw [← Option.not_isSome_iff_eq_none, combineParameters, foldlM_combineStep_isSome_iff]
  intro hall
  obtain ⟨n', w', hn', -⟩ := hall ⟨r, ⟨r, n⟩, w⟩ (mem_snapshotEntries.mpr ⟨ps₂, hps₂, hw₂⟩)
  simp [hnone] at hn'

/-- The snapshot holding `a2`, as the file and as read back. -/
def a2File : OutputFile := .ok ⟨[("r", ⟨[("a2", "v2")], by decide⟩)], by decide⟩

def a2Snapshot : HashMap Region SsmParameters :=
  ⟨[(⟨"r"⟩, ⟨[(⟨⟨"r"⟩, "a2"⟩, "v2")], by decide⟩)], by decide⟩

/-- What the two-template promotion computes: its name map and its write set, `b2` alone. -/
def twoTemplatePromotion : Promotion :=
  ⟨⟨[("a1", "b1"), ("a2", "b2")], by decide⟩, ⟨[(⟨⟨"r"⟩, "b2"⟩, "v2")], by decide⟩⟩

/-- The promotion of `a2` fails at its set step and is run again once that step would succeed:
the first run has written `b2` into the file, `b2` is no source name, and the second run
panics. -/
theorem run_rerun_panics_after_throttle :
    twoTemplateArgs.ssm_parameter_output = some "out.json" ∧
    prepare (twoTemplateEnv (.error ⟨"throttled"⟩)) twoTemplateArgs =
      .ok (some twoTemplatePromotion) ∧
    ((run (twoTemplateEnv (.error ⟨"throttled"⟩)) twoTemplateArgs a2File).1 = .ok () ∨ ∃ e,
      (run (twoTemplateEnv (.error ⟨"throttled"⟩)) twoTemplateArgs a2File).1 =
        .error (.error (.setSsm e)) ∨
      (run (twoTemplateEnv (.error ⟨"throttled"⟩)) twoTemplateArgs a2File).1 =
        .error (.error (.validateSsm e))) ∧
    parseExpectedParameters a2File = .ok a2Snapshot ∧
    (∃ r ps, a2Snapshot.get? r = some ps ∧ ps.entries ≠ []) ∧
    prepare (twoTemplateEnv (.ok ())) twoTemplateArgs = .ok (some twoTemplatePromotion) ∧
    (∀ n ∈ twoTemplatePromotion.source_target_map.values,
      n ∉ twoTemplatePromotion.source_target_map.keys) ∧
    (run (twoTemplateEnv (.ok ())) twoTemplateArgs
      (run (twoTemplateEnv (.error ⟨"throttled"⟩)) twoTemplateArgs a2File).2).1 = .error .panic :=
  ⟨rfl, rfl, .inr ⟨_, .inl rfl⟩, rfl, ⟨⟨"r"⟩, _, rfl, by decide⟩, rfl, by decide,
    run_rerun_panics rfl rfl rfl (.inr ⟨_, .inl rfl⟩) rfl ⟨⟨"r"⟩, _, rfl, by decide⟩ rfl (by decide)⟩

end Pubsys.Aws.PromoteSsm
