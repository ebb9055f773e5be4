import Mathlib.Logic.Relation
import Pubsys.Aws.PromoteSsm.Store

/-!
# promote-ssm: the output file as a record of the store

The `ssm_parameter_output` file holds the original SSM parameters and, after each promotion,
the parameters promoted from them. `SnapshotHolds` says the file is a true record of the
store: every parameter it lists holds the value it lists.

`PromoteStep` is one invocation of `promote-ssm` against the store and the file at `path`,
ending in any way, a failed setup included. On the parameter store of `Store.lean`, which
applies every write, `snapshotHolds_promote` shows that one invocation keeps the record true,
and `snapshotHolds_of_reachable` that every sequence of invocations does. The one condition is
on the names an invocation's setup renders, where it gets that far: no template's target name
is another template's source name. Otherwise a persisted target can be both kept and
overwritten in one merge, and which value the file keeps depends on the snapshot's iteration
order (the `example` after `snapshotHolds_promote`).
-/

namespace Pubsys.Aws.PromoteSsm

open Ssm

/-- Every parameter a region's map holds is keyed in that region. -/
def RegionKeyed (P : HashMap Region SsmParameters) : Prop :=
  ∀ r ps key v, P.get? r = some ps → ps.get? key = some v → key.region = r

/-- The file is a true record of the store: every parameter it lists holds its value there.
A file that does not read as a snapshot records nothing. -/
def SnapshotHolds (file : OutputFile) (store : SsmParameters) : Prop :=
  ∀ P ∈ (parseExpectedParameters file).toOption, ∀ rp ∈ P.entries, ∀ kv ∈ rp.2.entries,
    store.get? kv.1 = some kv.2

instance (file : OutputFile) (store : SsmParameters) : Decidable (SnapshotHolds file store) :=
  inferInstanceAs (Decidable (∀ P ∈ (parseExpectedParameters file).toOption, _))

theorem snapshotHolds_iff {file : OutputFile} {store : SsmParameters} :
    SnapshotHolds file store ↔ ∀ P, parseExpectedParameters file = .ok P →
      ∀ r ps, P.get? r = some ps → ∀ key v, ps.get? key = some v → store.get? key = some v := by
  unfold SnapshotHolds
  cases parseExpectedParameters file <;>
    simp [Except.toOption, HashMap.get?_eq_some_iff, Prod.forall]

theorem snapshotHolds_error {store : SsmParameters} (e : Cause) :
    SnapshotHolds (.error e) store := by
  simp [SnapshotHolds, parseExpectedParameters, Except.map, Except.toOption]

/-- A read snapshot keys each parameter in its own region. -/
theorem regionKeyed_parseExpectedParameters {file : OutputFile}
    {P : HashMap Region SsmParameters} (h : parseExpectedParameters file = .ok P) :
    RegionKeyed P := by
  intro r ps key v hps hv
  obtain ⟨document, rfl⟩ : ∃ document, file = .ok document := by
    cases file with
    | error e => cases h
    | ok document => exact ⟨document, rfl⟩
  cases h
  obtain ⟨⟨region, parameters⟩, -, ⟨⟩⟩ := List.mem_map.mp (HashMap.mem_of_get?_collect hps)
  obtain ⟨⟨name, value⟩, -, ⟨⟩⟩ := List.mem_map.mp (HashMap.mem_of_get?_collect hv)
  rfl

/-- Reading back a written snapshot whose maps are keyed in their regions gives back its
parameters. -/
theorem get?_parse_renderedParameters {C P : HashMap Region SsmParameters}
    (hC : RegionKeyed C) (hP : parseExpectedParameters (.ok (renderedParameters C)) = .ok P)
    {r : Region} {ps : SsmParameters} (hps : P.get? r = some ps) {key : SsmKey} {v : String}
    (hv : ps.get? key = some v) : ∃ cs, C.get? r = some cs ∧ cs.get? key = some v := by
  cases hP
  obtain ⟨⟨rn, rp⟩, hrp, ⟨⟩⟩ := List.mem_map.mp (HashMap.mem_of_get?_collect hps)
  obtain ⟨⟨name, value⟩, hname, ⟨⟩⟩ := List.mem_map.mp (HashMap.mem_of_get?_collect hv)
  -- the region's document came from a region of `C` of that name, and the parameter from a
  -- parameter of that region with that name, which is keyed there
  obtain ⟨⟨r', cs⟩, hcs, ⟨⟩⟩ := List.mem_map.mp
    (HashMap.mem_of_get?_collect (HashMap.get?_eq_some_iff.mpr hrp))
  obtain ⟨⟨k, w⟩, hkw, ⟨⟩⟩ := List.mem_map.mp
    (HashMap.mem_of_get?_collect (HashMap.get?_eq_some_iff.mpr hname))
  have hcs' := HashMap.get?_eq_some_iff.mpr hcs
  have hkw' := HashMap.get?_eq_some_iff.mpr hkw
  obtain rfl := hC _ _ _ _ hcs' hkw'
  exact ⟨cs, hcs', hkw'⟩

section

variable {P C : HashMap Region SsmParameters} {W : SsmParameters} {M : HashMap String String}

/-- Each parameter of a merged region is persisted there, or is the write set's value of a
promoted key. -/
theorem get?_combineParameters_of_get? (h : combineParameters P W M = some C) {r : Region}
    {cs : SsmParameters} (hcs : C.get? r = some cs) {key : SsmKey} {v : String}
    (hv : cs.get? key = some v) : ∃ ps, P.get? r = some ps ∧
      (ps.get? key = some v ∨ Promoted M r ps key ∧ W.get? key = some v) := by
  obtain ⟨hnone, hsome⟩ := get?_combineParameters h r
  obtain ⟨ps, hps, hne⟩ : ∃ ps, P.get? r = some ps ∧ ps.entries ≠ [] := by
    by_contra hall
    push_neg at hall
    simp [hnone.mpr hall] at hcs
  obtain ⟨L, hL, hLmem⟩ := hsome ps hps hne
  rw [hcs, Option.some.injEq] at hL
  subst hL
  exact ⟨ps, hps, (hLmem key v).mp (HashMap.mem_of_get?_collect hv)⟩

theorem regionKeyed_combineParameters (h : combineParameters P W M = some C)
    (hP : RegionKeyed P) : RegionKeyed C := by
  intro r cs key v hcs hv
  obtain ⟨ps, hps, hk | ⟨⟨-, -, -, -, rfl⟩, -⟩⟩ := get?_combineParameters_of_get? h hcs hv
  · exact hP r ps key v hps hk
  · rfl

end

section

variable {env : PromoteEnv} {args : PromoteArgs} {store : SsmParameters} {file : OutputFile}

/-- Where a promotion with an output path leaves the store and the file: both as they were,
or the file broken by a failed write; or the store with the write set applied and the file
holding the merge of the snapshot it held. -/
theorem promote_cases {path : String} (hpath : args.ssm_parameter_output = some path) :
    ((promote env args store file).2.1 = store ∧
      ((promote env args store file).2.2 = file ∨
        ∃ e, (promote env args store file).2.2 = .error e)) ∨
    ∃ p P C, prepare { env with ssm := storeService store } args = .ok (some p) ∧
      parseExpectedParameters file = .ok P ∧
      combineParameters P p.set_parameters p.source_target_map = some C ∧
      (promote env args store file).2.1 = store.extend p.set_parameters.entries ∧
      (promote env args store file).2.2 = .ok (renderedParameters C) := by
  unfold promote run
  dsimp only
  rcases hp : prepare { env with ssm := storeService store } args with f | _ | ⟨M, W⟩
  · simp
  · simp
  simp only [hpath]
  unfold writeRenderedParameters
  rcases hP : parseExpectedParameters file with e | P
  · simp
  rcases hC : combineParameters P W M with _ | C
  · simp [hC]
  rcases hcreate : env.create_file with e | _
  · simp [hC, hcreate]
  rcases hwrite : env.write_file with e | _
  · simp [hC, hcreate, hwrite]
  exact .inr ⟨⟨M, W⟩, P, C, rfl, rfl, hC, by simp [hC, hcreate, hwrite, storeService]⟩

/-- One promotion keeps the file a true record of the store, whichever way it ends. The
parameters the file lists are source parameters of the promotion, so none is written; the
parameters the merge adds are written with the values it records. -/
theorem snapshotHolds_promote
    (hcross : ∀ regions src tgt, Renders env args regions src tgt →
      ∀ t t' n, src.get? t = some n → tgt.get? t' = some n → t = t')
    {path : String} (hpath : args.ssm_parameter_output = some path)
    (hfile : SnapshotHolds file store) :
    SnapshotHolds (promote env args store file).2.2 (promote env args store file).2.1 := by
  rcases @promote_cases env args store file path hpath with
    ⟨hs, hf | ⟨e, hf⟩⟩ | ⟨p, P, C, hp, hP, hC, hs, hf⟩
  · rwa [hs, hf]
  · rw [hf]
    exact snapshotHolds_error e
  -- the run got through its setup, joined its renderings and diffed the store
  obtain ⟨regions, src, tgt, hr⟩ := renders_of_prepare hp
  obtain ⟨hstm, hW⟩ := prepare_eq_some hr rfl rfl hp
  rw [hs, hf, snapshotHolds_iff]
  intro P' hP' r ps' hps' key v hv
  rw [HashMap.get?_extend_entries]
  obtain ⟨cs, hcs, hkey⟩ := get?_parse_renderedParameters
    (regionKeyed_combineParameters hC (regionKeyed_parseExpectedParameters hP)) hP' hps' hv
  obtain ⟨ps, hps, hk | ⟨-, hw⟩⟩ := get?_combineParameters_of_get? hC hcs hkey
  · -- a persisted parameter: the merge looked up its name, a source name, so it is not written
    obtain ⟨n, w, hn, -⟩ := foldlM_combineStep_defined _ hC ⟨r, key, v⟩
      (mem_snapshotEntries.mpr ⟨ps, hps, hk⟩)
    obtain ⟨t, hs', -⟩ := get?_sourceTargetMap hstm hn
    cases hw : p.set_parameters.get? key with
    | none => exact snapshotHolds_iff.mp hfile P hP r ps hps key v hk
    | some w' =>
      obtain ⟨-, t', ns, hns, ht', hv', hne⟩ := outOfDate_of_setParameters hstm hW hw
      cases hcross regions src tgt hr t t' _ hs' ht'
      cases hs'.symm.trans hns
      exact absurd hv' hne
  · rw [hw]
    rfl

end

/-- A promotion in which `b1` is the target of `t1` and the source of `t2`. -/
def chainEnv : PromoteEnv :=
  { twoTemplateEnv (.ok ()) with
    render_parameter_names := fun _ _ context => .ok <|
      if context.image_version = "1" then ⟨[("t1", "a1"), ("t2", "b1")], by decide⟩
      else ⟨[("t1", "b1"), ("t2", "c2")], by decide⟩ }

/-- The store and the file both hold `a1` and an older `b1`. -/
def chainStore : SsmParameters := ⟨[(⟨⟨"r"⟩, "a1"⟩, "v1"), (⟨⟨"r"⟩, "b1"⟩, "w")], by decide⟩

def chainFile : OutputFile := .ok ⟨[("r", ⟨[("a1", "v1"), ("b1", "w")], by decide⟩)], by decide⟩

/-- Without the condition on target names, the merge writes `b1` into the file twice, and the
persisted `w` comes last, while the store now holds `v1`. -/
example : SnapshotHolds chainFile chainStore ∧
    ¬SnapshotHolds (promote chainEnv twoTemplateArgs chainStore chainFile).2.2
      (promote chainEnv twoTemplateArgs chainStore chainFile).2.1 := by
  decide

/-- One invocation of `promote-ssm` against the store and the file at `path`. It may end in
any way, its setup failing included; where its setup renders names, no template's target name
is the source name of another. -/
inductive PromoteStep (path : String) : SsmParameters × OutputFile → SsmParameters × OutputFile →
    Prop
  | promote {env : PromoteEnv} {args : PromoteArgs} {store : SsmParameters} {file : OutputFile}
      (hpath : args.ssm_parameter_output = some path)
      (hcross : ∀ regions src tgt, Renders env args regions src tgt →
        ∀ t t' n, src.get? t = some n → tgt.get? t' = some n → t = t') :
      PromoteStep path (store, file)
        ((promote env args store file).2.1, (promote env args store file).2.2)

/-- Over every sequence of invocations on one store and one output file, the file stays a true
record of the store. -/
theorem snapshotHolds_of_reachable {path : String} {s s' : SsmParameters × OutputFile}
    (h : Relation.ReflTransGen (PromoteStep path) s s') (hs : SnapshotHolds s.2 s.1) :
    SnapshotHolds s'.2 s'.1 := by
  induction h with
  | refl => exact hs
  | tail _ step ih =>
    cases step with
    | promote hpath hcross => exact snapshotHolds_promote hcross hpath ih

/-- The promotion of `a2` from the store that holds it: the file the run leaves records the
promoted `b2` next to `a2`, and the store holds both. -/
theorem snapshotHolds_of_reachable_a2 :
    Relation.ReflTransGen (PromoteStep "out.json") (twoTemplateStore, a2File)
      ((promote (twoTemplateEnv (.ok ())) twoTemplateArgs twoTemplateStore a2File).2.1,
        (promote (twoTemplateEnv (.ok ())) twoTemplateArgs twoTemplateStore a2File).2.2) ∧
    SnapshotHolds a2File twoTemplateStore ∧
    SnapshotHolds (promote (twoTemplateEnv (.ok ())) twoTemplateArgs twoTemplateStore a2File).2.2
      (promote (twoTemplateEnv (.ok ())) twoTemplateArgs twoTemplateStore a2File).2.1 :=
  have hstep := Relation.ReflTransGen.single (PromoteStep.promote rfl fun _ _ _ hr => by
    obtain ⟨-, rfl, rfl⟩ := (renders_twoTemplateEnv _).unique hr
    exact twoTemplate_cross)
  ⟨hstep, by decide, snapshotHolds_of_reachable hstep (by decide)⟩

end Pubsys.Aws.PromoteSsm
