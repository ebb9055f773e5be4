import Pubsys.Aws.Ssm

/-!
# promote-ssm: the write set

The pure middle of `promote_ssm::run`, from the two rendered name maps to the write set
`set_parameters`. Names are joined through their template string: `source_target_map` sends
the source name of each template to its target name, and the fetched source values are
re-keyed through it before `key_difference` compares them with the live target values.
Indexing a `HashMap` (`m[&k]`) panics on a missing key; here it is `get?`, and a panic is
`none`.

`setParameters_eq` is the contract of this part: when every template rendered for the source
is rendered for the target too and each rendering gives distinct names, the run writes each
fetched source value to the target slot of the same template in the same region, exactly
where that slot is missing or holds another value.
-/

namespace Pubsys.Aws.PromoteSsm

open Ssm

/-- `source_keys` and `target_keys`: every rendered name, in every region. -/
def parameterKeys (regions : List Region) (parameter_map : HashMap String String) :
    List SsmKey :=
  regions.flatMap fun region => parameter_map.values.map fun name => ⟨region, name⟩

/-- `source_target_map`: the source name of each template to its target name. -/
def sourceTargetMap (source_parameter_map target_parameter_map : HashMap String String) :
    Option (HashMap String String) :=
  HashMap.collect <$> source_parameter_map.entries.mapM fun (k, v) =>
    (v, ·) <$> target_parameter_map.get? k

/-- The fetched source values, re-keyed to their target names through `source_target_map`. -/
def promotedParameters (source_target_map : HashMap String String)
    (current_source_parameters : SsmParameters) : Option SsmParameters :=
  HashMap.collect <$> current_source_parameters.entries.mapM fun (key, value) =>
    (fun name => ((⟨key.region, name⟩ : SsmKey), value)) <$> source_target_map.get? key.name

/-- `set_parameters`: the promoted values that the live target parameters lack. -/
def setParameters (source_target_map : HashMap String String)
    (current_source_parameters current_target_parameters : SsmParameters) :
    Option SsmParameters :=
  (keyDifference · current_target_parameters) <$>
    promotedParameters source_target_map current_source_parameters

theorem mem_parameterKeys {regions : List Region} {parameter_map : HashMap String String}
    {key : SsmKey} :
    key ∈ parameterKeys regions parameter_map ↔
      key.region ∈ regions ∧ ∃ t, parameter_map.get? t = some key.name := by
  obtain ⟨region, name⟩ := key
  simp only [parameterKeys, List.mem_flatMap, List.mem_map, HashMap.mem_values, SsmKey.mk.injEq]
  constructor
  · rintro ⟨r, hr, n, hn, rfl, rfl⟩
    exact ⟨hr, hn⟩
  · rintro ⟨hr, hn⟩
    exact ⟨region, hr, name, hn, rfl, rfl⟩

/-- With distinct source names, and every template rendered for the target too,
`source_target_map` pairs the two names of each template. -/
theorem sourceTargetMap_spec {src tgt : HashMap String String} (hsrc : src.values.Nodup)
    (hkeys : ∀ t ∈ src.keys, t ∈ tgt.keys) :
    ∃ stm, sourceTargetMap src tgt = some stm ∧
      ∀ ns nt, stm.get? ns = some nt ↔ ∃ t, src.get? t = some ns ∧ tgt.get? t = some nt := by
  have hdef : ∀ e ∈ src.entries, ∃ nt, tgt.get? e.1 = some nt := fun e he =>
    HashMap.mem_keys.mp (hkeys e.1 (List.mem_map_of_mem _ he))
  let g : String × String → String × String := fun e => (e.2, (tgt.get? e.1).getD "")
  refine ⟨_, congrArg (Option.map _) (mapM_eq_some_map (g := g) fun e he => ?_), fun ns nt => ?_⟩
  · obtain ⟨nt, hnt⟩ := hdef e he
    simp [g, hnt]
  rw [HashMap.get?_collect_of_nodup (by simpa [g, List.map_map] using hsrc)]
  constructor
  · intro h
    obtain ⟨⟨t, ns'⟩, he, hgt⟩ := List.mem_map.mp h
    obtain ⟨nt', hnt⟩ := hdef _ he
    simp only [g, hnt, Option.getD_some, Prod.mk.injEq] at hgt
    obtain ⟨rfl, rfl⟩ := hgt
    exact ⟨t, HashMap.get?_eq_some_iff.mpr he, hnt⟩
  · rintro ⟨t, hs, ht⟩
    have he := HashMap.get?_eq_some_iff.mp hs
    exact List.mem_map.mpr ⟨_, he, by simp [g, ht]⟩

/-- Whatever the renderings, a name the joined map sends somewhere is the source name of a
template whose target name it is sent to. -/
theorem get?_sourceTargetMap {src tgt stm : HashMap String String}
    (h : sourceTargetMap src tgt = some stm) {ns nt : String} (hn : stm.get? ns = some nt) :
    ∃ t, src.get? t = some ns ∧ tgt.get? t = some nt := by
  obtain ⟨l, hl, rfl⟩ := Option.map_eq_some'.mp h
  obtain ⟨⟨t, ns'⟩, ht, hf⟩ := mem_of_mapM_eq_some hl _ (HashMap.mem_of_get?_collect hn)
  obtain ⟨nt', hnt, he⟩ := Option.map_eq_some'.mp hf
  cases he
  exact ⟨t, HashMap.get?_eq_some_iff.mpr ht, hnt⟩

/-- With distinct target names, no two source names are sent to one target name. -/
theorem sourceTargetMap_inj {src tgt stm : HashMap String String}
    (h : sourceTargetMap src tgt = some stm) (htgt : tgt.values.Nodup) {n n' m : String}
    (hn : stm.get? n = some m) (hn' : stm.get? n' = some m) : n = n' := by
  obtain ⟨t, hs, ht⟩ := get?_sourceTargetMap h hn
  obtain ⟨t', hs', ht'⟩ := get?_sourceTargetMap h hn'
  cases HashMap.eq_of_get?_eq_of_nodup_values htgt ht ht'
  exact Option.some_injective _ (hs.symm.trans hs')

/-- When every fetched name has a target name and no two names share one, the re-keyed map
holds each fetched value under the target name, in its own region. -/
theorem promotedParameters_spec {stm : HashMap String String} {S : SsmParameters}
    (hnames : ∀ key ∈ S.keys, key.name ∈ stm.keys)
    (hinj : ∀ n n' m, stm.get? n = some m → stm.get? n' = some m → n = n') :
    ∃ P, promotedParameters stm S = some P ∧
      ∀ key value, P.get? key = some value ↔
        ∃ name, stm.get? name = some key.name ∧ S.get? ⟨key.region, name⟩ = some value := by
  have hdef : ∀ e ∈ S.entries, ∃ n, stm.get? e.1.name = some n := fun e he =>
    HashMap.mem_keys.mp (hnames e.1 (List.mem_map_of_mem _ he))
  let g : SsmKey × String → SsmKey × String :=
    fun e => (⟨e.1.region, (stm.get? e.1.name).getD ""⟩, e.2)
  have hnodup : ((S.entries.map g).map Prod.fst).Nodup := by
    rw [List.map_map]
    refine List.Nodup.map_on (fun e he e' he' h => HashMap.eq_of_mem_entries he he' ?_)
      (S.nodup_keys.of_map _)
    obtain ⟨n, hn⟩ := hdef e he
    obtain ⟨n', hn'⟩ := hdef e' he'
    simp only [Function.comp, g, hn, hn', Option.getD_some, SsmKey.mk.injEq] at h
    obtain ⟨⟨r, m⟩, v⟩ := e
    obtain ⟨⟨r', m'⟩, v'⟩ := e'
    simp only at h hn hn' ⊢
    rw [h.1, hinj _ _ _ hn (h.2 ▸ hn')]
  refine ⟨_, congrArg (Option.map _) (mapM_eq_some_map (g := g) fun e he => ?_), fun key value => ?_⟩
  · obtain ⟨n, hn⟩ := hdef e he
    simp [g, hn]
  rw [HashMap.get?_collect_of_nodup hnodup]
  constructor
  · intro h
    obtain ⟨⟨⟨r, n⟩, v⟩, he, hgt⟩ := List.mem_map.mp h
    obtain ⟨n', hn⟩ := hdef _ he
    simp only [g, hn, Option.getD_some, Prod.mk.injEq] at hgt
    obtain ⟨rfl, rfl⟩ := hgt
    exact ⟨n, hn, HashMap.get?_eq_some_iff.mpr he⟩
  · rintro ⟨n, hn, hs⟩
    have he := HashMap.get?_eq_some_iff.mp hs
    exact List.mem_map.mpr ⟨_, he, by simp [g, hn]⟩

/-- Whatever the renderings, each re-keyed value is a fetched value, moved to the name its
source name is sent to, in its own region. -/
theorem get?_promotedParameters {stm : HashMap String String} {S P : SsmParameters}
    (h : promotedParameters stm S = some P) {key : SsmKey} {v : String}
    (hv : P.get? key = some v) :
    ∃ k, S.get? k = some v ∧ k.region = key.region ∧ stm.get? k.name = some key.name := by
  obtain ⟨l, hl, rfl⟩ := Option.map_eq_some'.mp h
  obtain ⟨⟨k, v'⟩, hk, hf⟩ := mem_of_mapM_eq_some hl _ (HashMap.mem_of_get?_collect hv)
  obtain ⟨n, hn, he⟩ := Option.map_eq_some'.mp hf
  cases he
  exact ⟨k, HashMap.get?_eq_some_iff.mpr hk, rfl, hn⟩

/-- Whatever the renderings, each parameter of the write set is the target parameter of a
template whose fetched source value it carries, and the live target holds another value. -/
theorem get?_setParameters {src tgt stm : HashMap String String}
    (hstm : sourceTargetMap src tgt = some stm) {S H W : SsmParameters}
    (hW : setParameters stm S H = some W) {key : SsmKey} {v : String}
    (hw : W.get? key = some v) :
    ∃ t ns, src.get? t = some ns ∧ tgt.get? t = some key.name ∧
      S.get? ⟨key.region, ns⟩ = some v ∧ H.get? key ≠ some v := by
  obtain ⟨P, hP, rfl⟩ := Option.map_eq_some'.mp hW
  obtain ⟨hPv, hHv⟩ := get?_keyDifference.mp hw
  obtain ⟨k, hk, hregion, hname⟩ := get?_promotedParameters hP hPv
  obtain ⟨t, hs, ht⟩ := get?_sourceTargetMap hstm hname
  exact ⟨t, k.name, hs, ht, hregion ▸ hk, hHv⟩

/-- With paired renderings and fetched source keys among those asked for, the write set holds
each fetched value re-keyed through the joined map, where the live value differs. -/
theorem exists_setParameters {regions : List Region} {src tgt : HashMap String String}
    (hkeys : ∀ t ∈ src.keys, t ∈ tgt.keys) (hsrc : src.values.Nodup) (htgt : tgt.values.Nodup)
    {S : SsmParameters} (hS : ∀ key ∈ S.keys, key ∈ parameterKeys regions src)
    (H : SsmParameters) :
    ∃ stm W, sourceTargetMap src tgt = some stm ∧
      (∀ ns nt, stm.get? ns = some nt ↔ ∃ t, src.get? t = some ns ∧ tgt.get? t = some nt) ∧
      setParameters stm S H = some W ∧
      ∀ key value, W.get? key = some value ↔
        (∃ name, stm.get? name = some key.name ∧ S.get? ⟨key.region, name⟩ = some value) ∧
          H.get? key ≠ some value := by
  obtain ⟨stm, hstm, hget⟩ := sourceTargetMap_spec hsrc hkeys
  have hnames : ∀ key ∈ S.keys, key.name ∈ stm.keys := fun key hk => by
    obtain ⟨-, t, ht⟩ := mem_parameterKeys.mp (hS key hk)
    obtain ⟨nt, hnt⟩ := HashMap.mem_keys.mp (hkeys t (HashMap.mem_keys.mpr ⟨_, ht⟩))
    exact HashMap.mem_keys.mpr ⟨nt, (hget _ _).mpr ⟨t, ht, hnt⟩⟩
  obtain ⟨P, hP, hPget⟩ :=
    promotedParameters_spec hnames fun _ _ _ => sourceTargetMap_inj hstm htgt
  refine ⟨stm, _, hstm, hget, by rw [setParameters, hP]; rfl, fun key value => ?_⟩
  rw [get?_keyDifference, hPget]

/-- The write set of a promotion. When every template rendered for the source is rendered
for the target too, each rendering gives distinct names, and every fetched source key is one
`run` asked for, the write set holds, for each region `r` and template `t` whose source
value was fetched, that value under `t`'s target name in `r`, exactly when the live target
value there is missing or differs. -/
theorem setParameters_eq (regions : List Region) (src tgt : HashMap String String)
    (hkeys : ∀ t ∈ src.keys, t ∈ tgt.keys) (hsrc : src.values.Nodup) (htgt : tgt.values.Nodup)
    (S H : SsmParameters) (hS : ∀ key ∈ S.keys, key ∈ parameterKeys regions src) :
    ∃ stm W, sourceTargetMap src tgt = some stm ∧ setParameters stm S H = some W ∧
      ∀ key value, W.get? key = some value ↔
        ∃ r ∈ regions, ∃ t ns nt, src.get? t = some ns ∧ tgt.get? t = some nt ∧
          key = ⟨r, nt⟩ ∧ S.get? ⟨r, ns⟩ = some value ∧ H.get? ⟨r, nt⟩ ≠ some value := by
  obtain ⟨stm, W, hstm, hget, hW, hWget⟩ := exists_setParameters hkeys hsrc htgt hS H
  refine ⟨stm, W, hstm, hW, fun key value => ?_⟩
  rw [hWget]
  constructor
  · rintro ⟨⟨n, hn, hs⟩, hH⟩
    obtain ⟨t, hst, htt⟩ := (hget _ _).mp hn
    have hr := (mem_parameterKeys.mp (hS _ (HashMap.mem_keys.mpr ⟨_, hs⟩))).1
    exact ⟨key.region, hr, t, n, key.name, hst, htt, rfl, hs, hH⟩
  · rintro ⟨r, -, t, ns, nt, hst, htt, rfl, hs, hH⟩
    exact ⟨⟨ns, (hget _ _).mpr ⟨t, hst, htt⟩, hs⟩, hH⟩

/-- Two templates in one region; the target of the first is already up to date. -/
theorem setParameters_eq_two_templates :
    (∀ t ∈ (⟨[("t1", "a1"), ("t2", "a2")], by decide⟩ : HashMap String String).keys,
      t ∈ (⟨[("t1", "b1"), ("t2", "b2")], by decide⟩ : HashMap String String).keys) ∧
    (⟨[("t1", "a1"), ("t2", "a2")], by decide⟩ : HashMap String String).values.Nodup ∧
    (⟨[("t1", "b1"), ("t2", "b2")], by decide⟩ : HashMap String String).values.Nodup ∧
    (∀ key ∈ (⟨[(⟨⟨"r"⟩, "a1"⟩, "v1"), (⟨⟨"r"⟩, "a2"⟩, "v2")], by decide⟩ : SsmParameters).keys,
      key ∈ parameterKeys [⟨"r"⟩] ⟨[("t1", "a1"), ("t2", "a2")], by decide⟩) ∧
    ∃ stm W, sourceTargetMap ⟨[("t1", "a1"), ("t2", "a2")], by decide⟩
        ⟨[("t1", "b1"), ("t2", "b2")], by decide⟩ = some stm ∧
      setParameters stm ⟨[(⟨⟨"r"⟩, "a1"⟩, "v1"), (⟨⟨"r"⟩, "a2"⟩, "v2")], by decide⟩
        ⟨[(⟨⟨"r"⟩, "b1"⟩, "v1")], by decide⟩ = some W ∧
      ∀ key value, W.get? key = some value ↔
        ∃ r ∈ [(⟨"r"⟩ : Region)], ∃ t ns nt,
          (⟨[("t1", "a1"), ("t2", "a2")], by decide⟩ : HashMap String String).get? t = some ns ∧
          (⟨[("t1", "b1"), ("t2", "b2")], by decide⟩ : HashMap String String).get? t = some nt ∧
          key = ⟨r, nt⟩ ∧
          (⟨[(⟨⟨"r"⟩, "a1"⟩, "v1"), (⟨⟨"r"⟩, "a2"⟩, "v2")], by decide⟩ : SsmParameters).get?
            ⟨r, ns⟩ = some value ∧
          (⟨[(⟨⟨"r"⟩, "b1"⟩, "v1")], by decide⟩ : SsmParameters).get? ⟨r, nt⟩ ≠ some value :=
  ⟨by decide, by decide, by decide, by decide,
    setParameters_eq _ _ _ (by decide) (by decide) (by decide) _ _ (by decide)⟩

end Pubsys.Aws.PromoteSsm
