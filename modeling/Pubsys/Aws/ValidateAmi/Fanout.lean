import Pubsys.Aws.ValidateAmi.Ami
import Mathlib.Logic.Relation

/-!
# validate-ami: the region fan-out

`describe_images` starts one `describe_images_in_region` future per client and collects their
results, through a `FuturesUnordered`, into a map by region. Each future runs the loop of its
own region against its own client; the futures share no state, and they complete in any order.

`Fanout` is the state of that collection: the futures still pending, each stopped at an await
point of its loop, and the results collected so far. A `Fanout.Step` advances any one pending
future to its next await point (a page, or one image with its launch-permission request), or
moves a finished one into the map. `Fanout.Inv` holds along every run, and once nothing is
pending the map holds one entry per region: that region's own result (`describeImages_spec`).
Completing the futures in the order they were started is one run (`describeImagesInOrder`).

Each client answers a request with the finite list of pages its paginator yields, so the
model describes the runs whose paginators end; a service that keeps announcing pages, for
which the `while let` loop never ends, is outside it.
-/

namespace Pubsys.Aws.ValidateAmi

/-- `describe_images_in_region` stopped at an await point: the images of the current page
still to go through, the pages still to come, and the map so far; or its result. -/
inductive RegionTask
  | running (page : List Image) (pages : List Page) (images : HashMap String ImageDef)
  | finished (result : Except AmiError (HashMap String ImageDef))

/-- One region's request in `describe_images`: its region, client and image ids. -/
structure Request where
  region : Region
  client : Ec2Client
  image_ids : List String

namespace RegionTask

variable (q : Request) (expected_image_public : HashMap String Bool)

/-- The future of a request before its first poll. -/
def start : RegionTask := running [] (q.client.describe_images q.image_ids) .empty

/-- The future run to its next await point. -/
def poll : RegionTask → RegionTask
  | running (image :: page) pages images =>
    match retrieveImage q.region q.client expected_image_public images image with
    | .ok images => running page pages images
    | .error e => finished (.error e)
  | running [] (p :: pages) images =>
    match p.mapError (.describeImages q.region.name) with
    | .ok retrieved_images => running (retrieved_images.getD []) pages images
    | .error e => finished (.error e)
  | running [] [] images => finished (.ok images)
  | finished result => finished result

/-- The result the future will produce from here on. -/
def outcome : RegionTask → Except AmiError (HashMap String ImageDef)
  | running page pages images => do
    let images ← page.foldlM (retrieveImage q.region q.client expected_image_public) images
    pages.foldlM (retrievePage q.region q.client expected_image_public) images
  | finished result => result

/-- The await points left before the future finishes. -/
def remaining : RegionTask → Nat
  | running page pages _ => page.length + (pages.flatMap pageImages).length + pages.length + 1
  | finished _ => 0

theorem outcome_start :
    outcome q expected_image_public (start q) =
      describeImagesInRegion q.region q.client expected_image_public q.image_ids := by
  simp [outcome, start, describeImagesInRegion, pure, Except.pure, bind, Except.bind]

/-- The step lemma: polling a future does not change what it will produce. -/
theorem outcome_poll (t : RegionTask) :
    outcome q expected_image_public (poll q expected_image_public t) =
      outcome q expected_image_public t := by
  match t with
  | running (image :: page) pages images =>
    simp only [poll, outcome, List.foldlM_cons]
    cases retrieveImage q.region q.client expected_image_public images image <;> rfl
  | running [] (p :: pages) images =>
    cases p <;> rfl
  | running [] [] images => rfl
  | finished result => rfl

theorem remaining_poll {page : List Image} {pages : List Page}
    {images : HashMap String ImageDef} :
    remaining (poll q expected_image_public (running page pages images)) <
      remaining (running page pages images) := by
  match page, pages with
  | image :: page, pages =>
    simp only [poll]
    split <;> simp [remaining]
  | [], p :: pages =>
    simp only [poll]
    split
    · rename_i retrieved h
      cases p <;> simp_all [Except.mapError, remaining, pageImages]
    · simp [remaining]
  | [], [] => simp [poll, remaining]

end RegionTask

/-- The `FuturesUnordered` collect of `describe_images`: the futures still pending, and the
results collected so far. -/
structure Fanout where
  pending : List (Request × RegionTask)
  collected : HashMap Region (Except AmiError (HashMap String ImageDef))

/-- One step of the collect: any pending future is polled, or any finished one is collected. -/
inductive Fanout.Step (expected_image_public : HashMap String Bool) : Fanout → Fanout → Prop
  | poll (pre post : List (Request × RegionTask)) (q : Request) (page : List Image)
      (pages : List Page) (images : HashMap String ImageDef) collected :
      Step expected_image_public ⟨pre ++ (q, .running page pages images) :: post, collected⟩
        ⟨pre ++ (q, (RegionTask.running page pages images).poll q expected_image_public) :: post,
          collected⟩
  | complete (pre post : List (Request × RegionTask)) (q : Request) result collected :
      Step expected_image_public ⟨pre ++ (q, .finished result) :: post, collected⟩
        ⟨pre ++ post, collected.insert q.region result⟩

/-- The futures `describe_images` starts: one per client, with that region's image ids. -/
def Fanout.init (clients : HashMap Region Ec2Client)
    (image_ids : HashMap Region (List String)) : Fanout where
  pending := clients.entries.map fun (region, client) =>
    let q : Request := ⟨region, client, (image_ids.get? region).getD []⟩
    (q, RegionTask.start q)
  collected := .empty

/-- `describe_images`: a map the collect can end with, when nothing is left pending. -/
def DescribeImages (clients : HashMap Region Ec2Client) (image_ids : HashMap Region (List String))
    (expected_image_public : HashMap String Bool)
    (results : HashMap Region (Except AmiError (HashMap String ImageDef))) : Prop :=
  ∃ s, Relation.ReflTransGen (Fanout.Step expected_image_public) (Fanout.init clients image_ids) s ∧
    s.pending = [] ∧ s.collected = results

namespace Fanout

variable {clients : HashMap Region Ec2Client} {image_ids : HashMap Region (List String)}
  {expected_image_public : HashMap String Bool} {s s' : Fanout}

/-- What holds of the collect along every run. -/
structure Inv (clients : HashMap Region Ec2Client) (image_ids : HashMap Region (List String))
    (expected_image_public : HashMap String Bool) (s : Fanout) : Prop where
  /-- Each region of a client is pending or collected, and only once. -/
  regions : (s.pending.map (·.1.region) ++ s.collected.keys).Perm clients.keys
  /-- A pending future belongs to its region and will produce that region's result. -/
  pending : ∀ q t, (q, t) ∈ s.pending → clients.get? q.region = some q.client ∧
    t.outcome q expected_image_public = describeImagesInRegion q.region q.client
      expected_image_public ((image_ids.get? q.region).getD [])
  /-- A collected result is its region's result. -/
  collected : ∀ r v, s.collected.get? r = some v → ∃ c, clients.get? r = some c ∧
    v = describeImagesInRegion r c expected_image_public ((image_ids.get? r).getD [])

theorem inv_init : Inv clients image_ids expected_image_public (init clients image_ids) where
  regions := by
    simp only [init, HashMap.keys, HashMap.empty, List.map_map, List.map_nil, List.append_nil]
    exact List.Perm.refl _
  pending q t h := by
    obtain ⟨⟨r, c⟩, hrc, he⟩ := List.mem_map.mp h
    simp only [Prod.mk.injEq] at he
    obtain ⟨rfl, rfl⟩ := he
    exact ⟨HashMap.get?_eq_some_iff.mpr hrc, RegionTask.outcome_start _ _⟩
  collected := by simp [init]

/-- The step lemma: every step of the collect keeps the invariant. -/
theorem Inv.step (hi : Inv clients image_ids expected_image_public s)
    (h : Step expected_image_public s s') : Inv clients image_ids expected_image_public s' := by
  cases h with
  | poll pre post q page pages images collected =>
    refine ⟨by simpa using hi.regions, fun q' t' h' => ?_, hi.collected⟩
    rcases List.mem_append.mp h' with h' | h'
    · exact hi.pending q' t' (List.mem_append_left _ h')
    rcases List.mem_cons.mp h' with h' | h'
    · cases h'
      obtain ⟨hc, ho⟩ := hi.pending q (.running page pages images) (by simp)
      exact ⟨hc, (RegionTask.outcome_poll _ _ _).trans ho⟩
    · exact hi.pending q' t' (by simp [h'])
  | complete pre post q result collected =>
    have hq := hi.pending q (.finished result) (by simp)
    have hnodup := hi.regions.nodup_iff.mpr clients.nodup_keys
    simp only [List.map_append, List.map_cons, List.append_assoc, List.cons_append] at hnodup
    have hfresh : q.region ∉ collected.keys := fun hk =>
      (List.nodup_cons.mp (List.nodup_middle.mp hnodup)).1 (by simp [hk])
    refine ⟨?_, fun q' t' h' => hi.pending q' t' ?_, fun r v h' => ?_⟩
    · rw [HashMap.keys_insert_of_not_mem hfresh]
      refine List.Perm.trans ?_ hi.regions
      simp only [List.map_append, List.map_cons, List.append_assoc, List.cons_append]
      exact (List.perm_append_left_iff _).mpr
        (by rw [← List.append_assoc]; exact List.perm_append_singleton _ _)
    · rcases List.mem_append.mp h' with h' | h' <;> simp [h']
    · rw [HashMap.get?_insert] at h'
      split_ifs at h' with hr
      · cases h'
        subst hr
        exact ⟨q.client, hq.1, hq.2⟩
      · exact hi.collected r v h'

/-- The run lemma: the invariant holds in every state a run of the collect reaches. -/
theorem inv_of_run (h : Relation.ReflTransGen (Step expected_image_public) (init clients image_ids) s) :
    Inv clients image_ids expected_image_public s := by
  induction h with
  | refl => exact inv_init
  | tail _ hst ih => exact ih.step hst

/-- Once nothing is pending, the map has one entry per region, that region's own result. -/
theorem Inv.done (hi : Inv clients image_ids expected_image_public s) (hd : s.pending = []) :
    (∀ r, r ∈ s.collected.keys ↔ r ∈ clients.keys) ∧
    ∀ r c, clients.get? r = some c → s.collected.get? r =
      some (describeImagesInRegion r c expected_image_public ((image_ids.get? r).getD [])) := by
  have hperm : s.collected.keys.Perm clients.keys := by simpa [hd] using hi.regions
  refine ⟨fun r => hperm.mem_iff, fun r c hc => ?_⟩
  obtain ⟨v, hv⟩ := HashMap.mem_keys.mp (hperm.mem_iff.mpr (HashMap.mem_keys.mpr ⟨c, hc⟩))
  obtain ⟨c', hc', rfl⟩ := hi.collected r v hv
  cases hc.symm.trans hc'
  exact hv

/-- A future at the head of the queue can be polled until it finishes with its outcome. -/
theorem run_poll (q : Request) (post : List (Request × RegionTask))
    (collected : HashMap Region (Except AmiError (HashMap String ImageDef))) :
    ∀ t : RegionTask, Relation.ReflTransGen (Step expected_image_public) ⟨(q, t) :: post, collected⟩
      ⟨(q, .finished (t.outcome q expected_image_public)) :: post, collected⟩
  | .finished _ => .refl
  | .running page pages images => by
    rw [← RegionTask.outcome_poll]
    exact .head (Step.poll [] post q page pages images collected) (run_poll q post collected _)
termination_by t => t.remaining
decreasing_by exact RegionTask.remaining_poll q expected_image_public

/-- Completing the futures one after another, in the order they were started, is a run. -/
theorem run_in_order : ∀ (pending : List (Request × RegionTask))
    (collected : HashMap Region (Except AmiError (HashMap String ImageDef))),
    Relation.ReflTransGen (Step expected_image_public) ⟨pending, collected⟩
      ⟨[], pending.foldl (fun results (q, t) =>
        results.insert q.region (t.outcome q expected_image_public)) collected⟩
  | [], _ => .refl
  | (q, t) :: post, collected => (run_poll q post collected t).trans
      (.head (Step.complete [] post q _ collected) (run_in_order post _))

end Fanout

/-- The map `describe_images` collects when the futures complete in the order they were
started. -/
def describeImagesInOrder (clients : HashMap Region Ec2Client)
    (image_ids : HashMap Region (List String)) (expected_image_public : HashMap String Bool) :
    HashMap Region (Except AmiError (HashMap String ImageDef)) :=
  clients.entries.foldl (fun results (region, client) => results.insert region
    (describeImagesInRegion region client expected_image_public
      ((image_ids.get? region).getD []))) .empty

theorem describeImages_describeImagesInOrder (clients : HashMap Region Ec2Client)
    (image_ids : HashMap Region (List String)) (expected_image_public : HashMap String Bool) :
    DescribeImages clients image_ids expected_image_public
      (describeImagesInOrder clients image_ids expected_image_public) := by
  refine ⟨_, Fanout.run_in_order _ _, rfl, ?_⟩
  simp only [Fanout.init, List.foldl_map, RegionTask.outcome_start, describeImagesInOrder]

/-- Whatever order the futures complete in, `describe_images` has one entry per region of a
client, and that entry is the region's own result: its describe loop on its own client. -/
theorem describeImages_spec {clients : HashMap Region Ec2Client}
    {image_ids : HashMap Region (List String)} {expected_image_public : HashMap String Bool}
    {results : HashMap Region (Except AmiError (HashMap String ImageDef))}
    (h : DescribeImages clients image_ids expected_image_public results) :
    (∀ r, r ∈ results.keys ↔ r ∈ clients.keys) ∧
    ∀ r c, clients.get? r = some c → results.get? r =
      some (describeImagesInRegion r c expected_image_public ((image_ids.get? r).getD [])) := by
  obtain ⟨s, hrun, hdone, rfl⟩ := h
  exact (Fanout.inv_of_run hrun).done hdone

end Pubsys.Aws.ValidateAmi
