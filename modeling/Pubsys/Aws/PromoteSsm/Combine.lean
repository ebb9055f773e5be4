import Pubsys.Aws.PromoteSsm.Plan

/-!
# promote-ssm: merging the promoted parameters into the snapshot

`combine_parameters` folds the write set into the snapshot read back from the
`ssm_parameter_output` file. For each persisted entry it extends the region's map with the
promoted entry of the same template and then with the entry itself. Each step is an
`extend`, so where two entries of one region land on one key, the later of them in the
snapshot's iteration order wins.

`combineParameters_spec` describes the result key by key. A key that is persisted and also
the promoted key of some entry is the one case it leaves open between two values, and
`combineParameters_order_dependent` shows that the iteration order does decide it.
-/

namespace Pubsys.Aws.PromoteSsm

open Ssm

/-- The two entries `combine_parameters` adds for one persisted entry: the promoted one,
then the persisted one. `none` is a panic of one of its two lookups. -/
def addParameters (set_parameters : SsmParameters) (source_target_map : HashMap String String)
    (region : Region) (ssm_key : SsmKey) (ssm_value : String) :
    Option (List (SsmKey × String)) := do
  let target_key : SsmKey := ⟨region, ← source_target_map.get? ssm_key.name⟩
  pure [(target_key, ← set_parameters.get? target_key), (ssm_key, ssm_value)]

/-- The snapshot flattened to `(region, key, value)`, as `combine_parameters` iterates it. -/
def snapshotEntries (source_parameters : HashMap Region SsmParameters) :
    List (Region × SsmKey × String) :=
  source_parameters.entries.flatMap fun (region, parameters) =>
    parameters.entries.map fun (ssm_key, ssm_value) => (region, ssm_key, ssm_value)

/-- One iteration of the `for_each` in `combine_parameters`. -/
def combineStep (set_parameters : SsmParameters) (source_target_map : HashMap String String)
    (combined_parameters : HashMap Region SsmParameters) :
    Region × SsmKey × String → Option (HashMap Region SsmParameters)
  | (region, ssm_key, ssm_value) => do
    let add_parameters ← addParameters set_parameters source_target_map region ssm_key ssm_value
    pure (combined_parameters.insert region
      (((combined_parameters.get? region).getD .empty).extend add_parameters))

/-- `combine_parameters`. -/
def combineParameters (source_parameters : HashMap Region SsmParameters)
    (set_parameters : SsmParameters) (source_target_map : HashMap String String) :
    Option (HashMap Region SsmParameters) :=
  (snapshotEntries source_parameters).foldlM (combineStep set_parameters source_target_map)
    .empty

/-- `key` is the promoted key, in region `r`, of one of the persisted keys of `parameters`. -/
def Promoted (source_target_map : HashMap String String) (r : Region)
    (parameters : SsmParameters) (key : SsmKey) : Prop :=
  ∃ ssm_key ∈ parameters.keys, ∃ name, source_target_map.get? ssm_key.name = some name ∧
    key = ⟨r, name⟩

/-- What the merge gives one region: `cs`, merged from the persisted map `ps` of region `r`. -/
structure MergedRegion (M : HashMap String String) (W : SsmParameters) (r : Region)
    (ps cs : SsmParameters) : Prop where
  /-- The persisted keys and their promoted keys, and no other. -/
  keys : ∀ key, key ∈ cs.keys ↔ key ∈ ps.keys ∨ Promoted M r ps key
  /-- A key no entry promotes to keeps its persisted value. -/
  persisted : ∀ key, ¬Promoted M r ps key → cs.get? key = ps.get? key
  /-- A promoted key that was not persisted holds the write set's value. -/
  promoted : ∀ key, key ∉ ps.keys → Promoted M r ps key → cs.get? key = W.get? key
  /-- Each key holds its persisted value or the write set's. -/
  either : ∀ key, cs.get? key = ps.get? key ∨ cs.get? key = W.get? key

/-- What the merge gives the whole snapshot `P`. -/
structure Merged (P : HashMap Region SsmParameters) (W : SsmParameters)
    (M : HashMap String String) (C : HashMap Region SsmParameters) : Prop where
  /-- A map for each region whose persisted map is non-empty, and no other. -/
  regions : ∀ r, r ∈ C.keys ↔ ∃ ps, P.get? r = some ps ∧ ps.entries ≠ []
  region : ∀ r ps, P.get? r = some ps → ps.entries ≠ [] →
    ∃ cs, C.get? r = some cs ∧ MergedRegion M W r ps cs

section

variable {W : SsmParameters} {M : HashMap String String}

theorem mem_addParameters {r : Region} {k : SsmKey} {v : String} {l : List (SsmKey × String)}
    (h : addParameters W M r k v = some l) (p : SsmKey × String) :
    p ∈ l ↔ (∃ n, M.get? k.name = some n ∧ p.1 = ⟨r, n⟩ ∧ W.get? p.1 = some p.2) ∨
      p = (k, v) := by
  simp only [addParameters, Option.bind_eq_bind, Option.bind_eq_some, Option.pure_def,
    Option.some.injEq] at h
  obtain ⟨n, hn, w, hw, rfl⟩ := h
  simp only [List.mem_cons, List.mem_singleton, List.not_mem_nil, or_false, hn,
    Option.some.injEq, exists_eq_left']
  refine or_congr_left ⟨fun hp => hp ▸ ⟨rfl, hw⟩, fun ⟨h₁, h₂⟩ => ?_⟩
  rw [h₁] at h₂
  exact Prod.ext h₁ (Option.some_injective _ (h₂.symm.trans hw))

/-- The step lemma: one entry extends its own region's map and no other. -/
theorem get?_combineStep {C C' : HashMap Region SsmParameters} {tr : Region × SsmKey × String}
    (h : combineStep W M C tr = some C') :
    ∃ l, addParameters W M tr.1 tr.2.1 tr.2.2 = some l ∧ ∀ r, C'.get? r =
      if r = tr.1 then some (((C.get? r).getD .empty).extend l) else C.get? r := by
  obtain ⟨region, k, v⟩ := tr
  simp only [combineStep, Option.bind_eq_bind, Option.bind_eq_some, Option.pure_def,
    Option.some.injEq] at h
  obtain ⟨l, hl, rfl⟩ := h
  refine ⟨l, hl, fun r => ?_⟩
  rw [HashMap.get?_insert]
  split_ifs with hr
  · subst hr; rfl
  · rfl

theorem foldlM_combineStep_cons {tr : Region × SsmKey × String}
    {T : List (Region × SsmKey × String)} {C₀ C : HashMap Region SsmParameters}
    (h : (tr :: T).foldlM (combineStep W M) C₀ = some C) :
    ∃ C₁, combineStep W M C₀ tr = some C₁ ∧ T.foldlM (combineStep W M) C₁ = some C := by
  simpa only [List.foldlM_cons, Option.bind_eq_bind, Option.bind_eq_some] using h

/-- The frame lemma: the entries of other regions leave a region's map as it was. -/
theorem get?_foldlM_combineStep_of_not_mem {T : List (Region × SsmKey × String)}
    {C₀ C : HashMap Region SsmParameters} (h : T.foldlM (combineStep W M) C₀ = some C)
    {r : Region} (hr : r ∉ T.map Prod.fst) : C.get? r = C₀.get? r := by
  induction T generalizing C₀ with
  | nil => cases h; rfl
  | cons tr T ih =>
    obtain ⟨C₁, hC, h⟩ := foldlM_combineStep_cons h
    obtain ⟨l, -, hC₁⟩ := get?_combineStep hC
    rw [ih h fun h' => hr (List.mem_cons_of_mem _ h'), hC₁, if_neg fun h' => hr (by simp [h'])]

/-- The run lemma: after the fold over `T`, the map of a region of `T` is its starting map
extended by a list holding exactly what the entries of that region added. -/
theorem get?_foldlM_combineStep {T : List (Region × SsmKey × String)}
    {C₀ C : HashMap Region SsmParameters} (h : T.foldlM (combineStep W M) C₀ = some C)
    {r : Region} (hr : r ∈ T.map Prod.fst) :
    ∃ L, C.get? r = some (((C₀.get? r).getD .empty).extend L) ∧
      ∀ p, p ∈ L ↔ ∃ tr ∈ T, tr.1 = r ∧
        ((∃ n, M.get? tr.2.1.name = some n ∧ p.1 = ⟨r, n⟩ ∧ W.get? p.1 = some p.2) ∨
          p = (tr.2.1, tr.2.2)) := by
  induction T generalizing C₀ with
  | nil => exact absurd hr (List.not_mem_nil r)
  | cons tr T ih =>
    obtain ⟨C₁, hC, h⟩ := foldlM_combineStep_cons h
    obtain ⟨l, hl, hC₁⟩ := get?_combineStep hC
    have hmem := mem_addParameters hl
    by_cases hr₁ : r = tr.1
    · subst hr₁
      by_cases hT : tr.1 ∈ T.map Prod.fst
      -- later entries of the region extend what this one added
      · obtain ⟨L, hL, hLmem⟩ := ih h hT
        refine ⟨l ++ L, by rw [hL, hC₁, if_pos rfl]; simp [HashMap.extend], fun p => ?_⟩
        simp [hmem, hLmem]
      -- this is the region's last entry
      · refine ⟨l, by rw [get?_foldlM_combineStep_of_not_mem h hT, hC₁, if_pos rfl],
          fun p => ?_⟩
        rw [hmem, List.exists_mem_cons_iff]
        refine ⟨fun hp => .inl ⟨rfl, hp⟩, ?_⟩
        rintro (⟨-, hp⟩ | ⟨tr', htr', he, -⟩)
        · exact hp
        · exact absurd (List.mem_map.mpr ⟨tr', htr', he⟩) hT
    -- an entry of another region changes nothing here
    · have hT : r ∈ T.map Prod.fst := by simpa [hr₁] using hr
      obtain ⟨L, hL, hLmem⟩ := ih h hT
      refine ⟨L, by rw [hL, hC₁, if_neg hr₁], fun p => ?_⟩
      simp [hLmem, Ne.symm hr₁]

theorem combineStep_isSome_iff {C : HashMap Region SsmParameters}
    {tr : Region × SsmKey × String} :
    (combineStep W M C tr).isSome ↔
      ∃ n w, M.get? tr.2.1.name = some n ∧ W.get? ⟨tr.1, n⟩ = some w := by
  obtain ⟨r, k, v⟩ := tr
  simp only [combineStep, addParameters]
  cases M.get? k.name with
  | none => simp
  | some n => cases hw : W.get? ⟨r, n⟩ <;> simp [hw]

/-- The merge runs to its end exactly when every lookup it makes succeeds. -/
theorem foldlM_combineStep_isSome_iff (T : List (Region × SsmKey × String))
    (C₀ : HashMap Region SsmParameters) :
    (T.foldlM (combineStep W M) C₀).isSome ↔
      ∀ tr ∈ T, ∃ n w, M.get? tr.2.1.name = some n ∧ W.get? ⟨tr.1, n⟩ = some w := by
  induction T generalizing C₀ with
  | nil => simp
  | cons tr T ih =>
    rw [List.foldlM_cons, List.forall_mem_cons, ← combineStep_isSome_iff (C := C₀)]
    cases combineStep W M C₀ tr with
    | none => simp
    | some C₁ => simpa using ih C₁

/-- A fold that finished found every lookup it made. -/
theorem foldlM_combineStep_defined (T : List (Region × SsmKey × String))
    {C₀ C : HashMap Region SsmParameters} (h : T.foldlM (combineStep W M) C₀ = some C) :
    ∀ tr ∈ T, ∃ n w, M.get? tr.2.1.name = some n ∧ W.get? ⟨tr.1, n⟩ = some w := by
  induction T generalizing C₀ with
  | nil => simp
  | cons tr T ih =>
    obtain ⟨C₁, hC, h⟩ := foldlM_combineStep_cons h
    obtain ⟨l, hl, -⟩ := get?_combineStep hC
    simp only [addParameters, Option.bind_eq_bind, Option.bind_eq_some] at hl
    obtain ⟨n, hn, w, hw, -⟩ := hl
    exact List.forall_mem_cons.mpr ⟨⟨n, w, hn, hw⟩, ih h⟩

theorem mem_snapshotEntries {P : HashMap Region SsmParameters} {tr : Region × SsmKey × String} :
    tr ∈ snapshotEntries P ↔ ∃ ps, P.get? tr.1 = some ps ∧ ps.get? tr.2.1 = some tr.2.2 := by
  obtain ⟨r, k, v⟩ := tr
  simp only [snapshotEntries, List.mem_flatMap, List.mem_map, Prod.mk.injEq,
    HashMap.get?_eq_some_iff]
  constructor
  · rintro ⟨⟨r', ps⟩, hps, ⟨k', v'⟩, hkv, rfl, rfl, rfl⟩
    exact ⟨ps, hps, hkv⟩
  · rintro ⟨ps, hps, hkv⟩
    exact ⟨⟨r, ps⟩, hps, ⟨k, v⟩, hkv, rfl, rfl, rfl⟩

/-- Each region's merged map collects its persisted entries and their promoted entries. -/
theorem get?_combineParameters {P : HashMap Region SsmParameters} {C : HashMap Region SsmParameters}
    (h : combineParameters P W M = some C) (r : Region) :
    (C.get? r = none ↔ ∀ ps, P.get? r = some ps → ps.entries = []) ∧
    ∀ ps, P.get? r = some ps → ps.entries ≠ [] → ∃ L, C.get? r = some (HashMap.collect L) ∧
      ∀ key v, (key, v) ∈ L ↔ ps.get? key = some v ∨ (Promoted M r ps key ∧ W.get? key = some v) := by
  have hout := fun hr => get?_foldlM_combineStep_of_not_mem h (r := r) hr
  have hin := fun hr => get?_foldlM_combineStep h (r := r) hr
  have hregion : r ∈ (snapshotEntries P).map Prod.fst ↔ ∃ ps, P.get? r = some ps ∧ ps.entries ≠ [] := by
    simp only [List.mem_map, mem_snapshotEntries]
    constructor
    · rintro ⟨⟨r', k, v⟩, ⟨ps, hps, hkv⟩, rfl⟩
      exact ⟨ps, hps, List.ne_nil_of_mem (HashMap.get?_eq_some_iff.mp hkv)⟩
    · rintro ⟨ps, hps, hne⟩
      obtain ⟨⟨k, v⟩, hkv⟩ := List.exists_mem_of_ne_nil _ hne
      exact ⟨⟨r, k, v⟩, ⟨ps, hps, HashMap.get?_eq_some_iff.mpr hkv⟩, rfl⟩
  refine ⟨⟨fun hC ps hps => ?_, fun hP => ?_⟩, fun ps hps hne => ?_⟩
  · by_contra hne
    obtain ⟨L, hL, -⟩ := hin (hregion.mpr ⟨ps, hps, hne⟩)
    simp [hC] at hL
  · exact hout (fun hr => by obtain ⟨ps, hps, hne⟩ := hregion.mp hr; exact hne (hP ps hps))
  obtain ⟨L, hL, hLmem⟩ := hin (hregion.mpr ⟨ps, hps, hne⟩)
  refine ⟨L, hL, fun key v => ?_⟩
  rw [hLmem]
  constructor
  · rintro ⟨⟨r', k, w⟩, htr, rfl, hp⟩
    obtain ⟨ps', hps', hkw⟩ := mem_snapshotEntries.mp htr
    cases hps.symm.trans hps'
    rcases hp with ⟨n, hn, rfl, hw⟩ | hp
    · exact .inr ⟨⟨k, HashMap.mem_keys.mpr ⟨w, hkw⟩, n, hn, rfl⟩, hw⟩
    · cases hp; exact .inl hkw
  · rintro (hkv | ⟨⟨k, hk, n, hn, rfl⟩, hw⟩)
    · exact ⟨⟨r, key, v⟩, mem_snapshotEntries.mpr ⟨ps, hps, hkv⟩, rfl, .inr rfl⟩
    · obtain ⟨w, hkw⟩ := HashMap.mem_keys.mp hk
      exact ⟨⟨r, k, w⟩, mem_snapshotEntries.mpr ⟨ps, hps, hkw⟩, rfl, .inl ⟨n, hn, rfl, hw⟩⟩

/-- Every promoted key of a merged region has a value in the write set. -/
theorem get?_of_promoted {P : HashMap Region SsmParameters} {C : HashMap Region SsmParameters}
    (h : combineParameters P W M = some C) {r : Region} {ps : SsmParameters}
    (hps : P.get? r = some ps) {key : SsmKey} (hkey : Promoted M r ps key) :
    ∃ w, W.get? key = some w := by
  obtain ⟨k, hk, n, hn, rfl⟩ := hkey
  obtain ⟨v, hkv⟩ := HashMap.mem_keys.mp hk
  obtain ⟨n', w, hn', hw⟩ := foldlM_combineStep_defined _ h ⟨r, k, v⟩
    (mem_snapshotEntries.mpr ⟨ps, hps, hkv⟩)
  cases hn.symm.trans hn'
  exact ⟨w, hw⟩

end

/-- The merged snapshot, key by key: whenever every lookup of the merge succeeds, the result
is `Merged`. A key that is both persisted and promoted is left open between its two values,
which `combineParameters_order_dependent` shows to be unavoidable. -/
theorem combineParameters_spec {P : HashMap Region SsmParameters} {W : SsmParameters}
    {M : HashMap String String} {C : HashMap Region SsmParameters}
    (h : combineParameters P W M = some C) : Merged P W M C := by
  refine ⟨fun r => ?_, fun r ps hps hne => ?_⟩
  · rw [← not_iff_not, ← HashMap.get?_eq_none_iff, (get?_combineParameters h r).1]
    constructor
    · rintro hP ⟨ps, hps, hne⟩
      exact hne (hP ps hps)
    · exact fun hP ps hps => by_contra fun hne => hP ⟨ps, hps, hne⟩
  obtain ⟨L, hL, hLmem⟩ := (get?_combineParameters h r).2 ps hps hne
  refine ⟨_, hL, fun key => ?_, fun key hkey => ?_, fun key hkey hprom => ?_, fun key => ?_⟩
  · rw [HashMap.mem_keys_collect, HashMap.mem_keys]
    simp only [hLmem, exists_or]
    refine or_congr_right ⟨fun ⟨_, hp, _⟩ => hp, fun hp => ?_⟩
    obtain ⟨w, hw⟩ := get?_of_promoted h hps hp
    exact ⟨w, hp, hw⟩
  · cases hv : ps.get? key with
    | none =>
      refine HashMap.get?_collect_eq_none_iff.mpr fun hk => ?_
      obtain ⟨⟨k, v⟩, hkv, rfl⟩ := List.mem_map.mp hk
      rcases (hLmem k v).mp hkv with h' | ⟨h', -⟩
      · simp [hv] at h'
      · exact hkey h'
    | some v =>
      refine HashMap.get?_collect_of_agree ((hLmem key v).mpr (.inl hv)) fun w hw => ?_
      rcases (hLmem key w).mp hw with h' | ⟨h', -⟩
      · exact Option.some_injective _ (h'.symm.trans hv)
      · exact absurd h' hkey
  · obtain ⟨w, hw⟩ := get?_of_promoted h hps hprom
    rw [hw]
    refine HashMap.get?_collect_of_agree ((hLmem key w).mpr (.inr ⟨hprom, hw⟩)) fun w' hw' => ?_
    rcases (hLmem key w').mp hw' with h' | ⟨-, h'⟩
    · exact absurd (HashMap.mem_keys.mpr ⟨w', h'⟩) hkey
    · exact Option.some_injective _ (h'.symm.trans hw)
  · cases hc : (HashMap.collect L).get? key with
    | none =>
      left
      refine (HashMap.get?_eq_none_iff.mpr fun hk => ?_).symm
      obtain ⟨v, hv⟩ := HashMap.mem_keys.mp hk
      exact HashMap.get?_collect_eq_none_iff.mp hc
        (List.mem_map_of_mem Prod.fst ((hLmem key v).mpr (.inl hv)))
    | some v =>
      rcases (hLmem key v).mp (HashMap.mem_of_get?_collect hc) with h' | ⟨-, h'⟩
      · exact .inl h'.symm
      · exact .inr h'.symm

/-- The spec's merge example: `keyX` of `regionA` promoted to `keyX-promoted`. -/
theorem combineParameters_spec_promoted_pair :
    ∃ C, combineParameters
        ⟨[(⟨"regionA"⟩, ⟨[(⟨⟨"regionA"⟩, "keyX"⟩, "v1")], by decide⟩)], by decide⟩
        ⟨[(⟨⟨"regionA"⟩, "keyX-promoted"⟩, "v1")], by decide⟩
        ⟨[("keyX", "keyX-promoted")], by decide⟩ = some C ∧
      Merged ⟨[(⟨"regionA"⟩, ⟨[(⟨⟨"regionA"⟩, "keyX"⟩, "v1")], by decide⟩)], by decide⟩
        ⟨[(⟨⟨"regionA"⟩, "keyX-promoted"⟩, "v1")], by decide⟩
        ⟨[("keyX", "keyX-promoted")], by decide⟩ C :=
  ⟨_, rfl, combineParameters_spec rfl⟩

/-- Two iteration orders of one snapshot region: entry `a` (value `1`) and entry `b`, whose
promoted key is `a`'s own key, with the write set holding `3` there. Visiting `a` first
leaves `a` at `3`; visiting `b` first leaves it at `1`. -/
theorem combineParameters_order_dependent :
    ((combineParameters
        ⟨[(⟨"r"⟩, ⟨[(⟨⟨"r"⟩, "a"⟩, "1"), (⟨⟨"r"⟩, "b"⟩, "2")], by decide⟩)], by decide⟩
        ⟨[(⟨⟨"r"⟩, "x"⟩, "1"), (⟨⟨"r"⟩, "a"⟩, "3")], by decide⟩
        ⟨[("a", "x"), ("b", "a")], by decide⟩).bind fun C =>
      (C.get? ⟨"r"⟩).bind fun cs => cs.get? ⟨⟨"r"⟩, "a"⟩) = some "3" ∧
    ((combineParameters
        ⟨[(⟨"r"⟩, ⟨[(⟨⟨"r"⟩, "b"⟩, "2"), (⟨⟨"r"⟩, "a"⟩, "1")], by decide⟩)], by decide⟩
        ⟨[(⟨⟨"r"⟩, "x"⟩, "1"), (⟨⟨"r"⟩, "a"⟩, "3")], by decide⟩
        ⟨[("a", "x"), ("b", "a")], by decide⟩).bind fun C =>
      (C.get? ⟨"r"⟩).bind fun cs => cs.get? ⟨⟨"r"⟩, "a"⟩) = some "1" := by
  decide

end Pubsys.Aws.PromoteSsm
