import Pubsys.Aws.ValidateAmi.Fanout

/-!
# validate-ami: validation

The part of `validate_ami::validate` between the expected-images file and the results map:
the per-region clients, the image ids to request, the flattened `expected_image_public` map,
`describe_images`, and `validate_images_in_region` for each region that was described.
`AmiValidationResult` and its constructor live in the results module, which is not among the
modelled sources; they are rebuilt from the spec's classification rule.

`validationResults_isolated` says that the results map has one entry per region of the
expected file, an error exactly when that region's own loop fails (`RegionFailsIn`, stated
through the expected file: `expected_image_public` has an entry for exactly the ids the file
lists), whatever the other regions do and whatever order the regions complete in.
`validationResults_ok` says what an entry that is not an error holds: one result per expected
image of its region.
-/

namespace Pubsys.Aws.ValidateAmi

/-- `AmiValidationResultStatus`. -/
inductive AmiValidationResultStatus
  | correct
  | incorrect
  | missing
deriving DecidableEq, Repr

/-- Modelled from the spec: `AmiValidationResult` (results module, absent). -/
@[ext] structure AmiValidationResult where
  id : String
  expected : ImageDef
  actual : Option ImageDef
  region : Region
  status : AmiValidationResultStatus
deriving DecidableEq, Repr

/-- Canonicalization: a public image's launch permissions are dropped. -/
def ImageDef.canonical (image : ImageDef) : ImageDef :=
  if image.public then { image with launch_permissions := none } else image

@[simp] theorem ImageDef.id_canonical (image : ImageDef) : image.canonical.id = image.id := by
  unfold ImageDef.canonical; split_ifs <;> rfl

/-- Modelled from the spec: `AmiValidationResult::new` (results module, absent). `Missing`
without an actual image, `Correct` when the two agree once canonicalized, else `Incorrect`. -/
def AmiValidationResult.new (id : String) (expected : ImageDef) (actual : Option ImageDef)
    (region : Region) : AmiValidationResult where
  id := id
  expected := expected
  actual := actual
  region := region
  status := match actual with
    | none => .missing
    | some actual => if actual.canonical = expected.canonical then .correct else .incorrect

/-- `validate_images_in_region`. The expected image is canonicalized in place, as the loop
clears a public image's launch permissions before building its result. -/
def validateImagesInRegion (expected_images : List ImageDef)
    (actual_images : HashMap String ImageDef) (region : Region) : HashSet AmiValidationResult :=
  expected_images.foldl (fun results image =>
    let image := image.canonical
    results.insert (.new image.id image (actual_images.get? image.id) region)) .empty

/-- `expected_image_public`: each expected image id to whether it is expected public. -/
def expectedImagePublic (expected_images : HashMap Region (List ImageDef)) :
    HashMap String Bool :=
  HashMap.collect <| expected_images.entries.flatMap fun (_, images) =>
    images.map fun image_def => (image_def.id, image_def.public)

/-- The image ids `validate` requests in each region. -/
def imageIds (expected_images : HashMap Region (List ImageDef)) :
    HashMap Region (List String) :=
  HashMap.collect <| expected_images.entries.map fun (region, images) =>
    (region, images.map (·.id))

/-- `ami_clients`: a client for each region of the expected file, `ec2` being the EC2
service as each region's client sees it. -/
def amiClients (expected_images : HashMap Region (List ImageDef)) (ec2 : Region → Ec2Client) :
    HashMap Region Ec2Client :=
  HashMap.empty.extend <| expected_images.keys.map fun region => (region, ec2 region)

/-- `results`: each described region's validation, or its describe error. -/
def validationResults (expected_images : HashMap Region (List ImageDef))
    (images : HashMap Region (Except AmiError (HashMap String ImageDef))) :
    HashMap Region (Except AmiError (HashSet AmiValidationResult)) :=
  HashMap.collect <| images.entries.map fun (region, region_result) =>
    (region, region_result.map fun result =>
      validateImagesInRegion ((expected_images.get? region).getD []) result region)

section

variable {E : HashMap Region (List ImageDef)}

theorem get?_amiClients (ec2 : Region → Ec2Client) (r : Region) :
    (amiClients E ec2).get? r = if r ∈ E.keys then some (ec2 r) else none := by
  rw [amiClients, ← HashMap.collect]
  split_ifs with h
  · exact (HashMap.get?_collect_of_nodup (by simpa [List.map_map, Function.comp_def] using
      E.nodup_keys)).mpr (List.mem_map_of_mem (fun region => (region, ec2 region)) h)
  · exact HashMap.get?_collect_eq_none_iff.mpr (by simpa [List.map_map, Function.comp_def] using h)

theorem mem_keys_amiClients (ec2 : Region → Ec2Client) (r : Region) :
    r ∈ (amiClients E ec2).keys ↔ r ∈ E.keys := by
  rw [HashMap.mem_keys, get?_amiClients]
  split_ifs with h <;> simp [h]

theorem get?_imageIds {r : Region} {es : List ImageDef} (h : E.get? r = some es) :
    (imageIds E).get? r = some (es.map (·.id)) :=
  (HashMap.get?_collect_of_nodup (by simpa [List.map_map, Function.comp_def] using E.nodup_keys)).mpr
    (List.mem_map.mpr ⟨(r, es), HashMap.get?_eq_some_iff.mp h, rfl⟩)

theorem get?_validationResults
    (images : HashMap Region (Except AmiError (HashMap String ImageDef))) (r : Region) :
    (validationResults E images).get? r = (images.get? r).map (Except.map fun result =>
      validateImagesInRegion ((E.get? r).getD []) result r) := by
  refine Option.ext fun v => ?_
  rw [Option.mem_def, Option.mem_def, validationResults,
    HashMap.get?_collect_of_nodup (by simpa [List.map_map, Function.comp_def] using images.nodup_keys)]
  simp only [List.mem_map, Prod.mk.injEq, Option.map_eq_some', HashMap.get?_eq_some_iff]
  constructor
  · rintro ⟨⟨r', v'⟩, hv, rfl, rfl⟩
    exact ⟨v', hv, rfl⟩
  · rintro ⟨v', hv, rfl⟩
    exact ⟨(r, v'), hv, rfl, rfl⟩

/-- Each region of the expected file is described with its own client and image ids. -/
theorem get?_describeImages {ec2 : Region → Ec2Client}
    {images : HashMap Region (Except AmiError (HashMap String ImageDef))}
    (h : DescribeImages (amiClients E ec2) (imageIds E) (expectedImagePublic E) images)
    {r : Region} {es : List ImageDef} (hes : E.get? r = some es) :
    images.get? r =
      some (describeImagesInRegion r (ec2 r) (expectedImagePublic E) (es.map (·.id))) := by
  have hr : r ∈ E.keys := HashMap.mem_keys.mpr ⟨es, hes⟩
  rw [(describeImages_spec h).2 r (ec2 r) (by simp [get?_amiClients, hr]), get?_imageIds hes]
  rfl

/-- `id` is the id of an image the expected file lists, in some region. -/
def Listed (E : HashMap Region (List ImageDef)) (id : String) : Prop :=
  ∃ r es e, E.get? r = some es ∧ e ∈ es ∧ e.id = id

/-- `expected_image_public` has an entry for exactly the ids the expected file lists, whatever
publicities they are listed with. -/
theorem get?_expectedImagePublic_eq_none_iff {id : String} :
    (expectedImagePublic E).get? id = none ↔ ¬Listed E id := by
  rw [expectedImagePublic, HashMap.get?_collect_eq_none_iff, not_iff_not]
  simp only [List.mem_map, List.mem_flatMap, Listed, HashMap.get?_eq_some_iff]
  constructor
  · rintro ⟨_, ⟨⟨r, es⟩, hes, e, he, rfl⟩, rfl⟩
    exact ⟨r, es, e, hes, he, rfl⟩
  · rintro ⟨r, es, e, hes, he, rfl⟩
    exact ⟨_, ⟨(r, es), hes, e, he, rfl⟩, rfl⟩

/-- The describe loop of a region stops, stated through the expected file: one of its pages
fails, or holds an image without an id, an image whose id the file does not list, or an image
the code takes as private whose launch permissions cannot be read. -/
def RegionFailsIn (E : HashMap Region (List ImageDef)) (client : Ec2Client)
    (image_ids : List String) : Prop :=
  ∃ page ∈ client.describe_images image_ids, (∃ e, page = .error e) ∨
    ∃ image ∈ pageImages page, image.image_id = none ∨ ∃ id, image.image_id = some id ∧
      (¬Listed E id ∨ (expectedImagePublic E).get? id = some false ∧
        ∃ e, client.describe_image_attribute id = .error e)

theorem regionFails_iff {client : Ec2Client} {image_ids : List String} :
    RegionFails client (expectedImagePublic E) image_ids ↔ RegionFailsIn E client image_ids := by
  simp only [RegionFails, PageFails, ImageFails, RegionFailsIn,
    get?_expectedImagePublic_eq_none_iff]

/-- An account the sample's private images are shared with. -/
def sharedAccount : LaunchPermissionDef := ⟨none, some "111122223333", none, none⟩

/-- The image the sample expects in `us-west-2`: private, shared with one account. -/
def westImage : ImageDef :=
  ⟨"ami-west", "bottlerocket", false, some [sharedAccount], true, "simple"⟩

/-- A sample expected-images file: one private image in `us-west-2`, one in `us-east-1`. -/
def twoRegionFile : HashMap Region (List ImageDef) :=
  ⟨[(⟨"us-west-2"⟩, [westImage]),
    (⟨"us-east-1"⟩, [⟨"ami-east", "bottlerocket", false, some [sharedAccount], true, "simple"⟩])],
    by decide⟩

/-- The sample's EC2: `us-west-2` returns its image as expected, `us-east-1` is throttled. -/
def twoRegionEc2 (region : Region) : Ec2Client :=
  if region.name = "us-west-2" then
    { describe_images := fun _ =>
        [.ok (some [⟨some "ami-west", some "bottlerocket", some false, some true, some "simple"⟩])]
      describe_image_attribute := fun _ => .ok (some [sharedAccount]) }
  else
    { describe_images := fun _ => [.error ⟨"Throttling"⟩]
      describe_image_attribute := fun _ => .ok none }

/-- The sample's images, its futures completing in the order they were started. -/
def twoRegionImages : HashMap Region (Except AmiError (HashMap String ImageDef)) :=
  describeImagesInOrder (amiClients twoRegionFile twoRegionEc2) (imageIds twoRegionFile)
    (expectedImagePublic twoRegionFile)

/-- The results map of every run: one entry per region of the expected file, an error exactly
when one of that region's own pages fails (a failed request, an image without an id or with
an id the file does not list, a failed launch-permission request), and the same entry
whatever the other regions' services do and whatever order the regions complete in. -/
theorem validationResults_isolated {ec2 : Region → Ec2Client}
    {images : HashMap Region (Except AmiError (HashMap String ImageDef))}
    (h : DescribeImages (amiClients E ec2) (imageIds E) (expectedImagePublic E) images) :
    (∀ r, r ∈ images.keys ↔ r ∈ E.keys) ∧
    (∀ r, r ∈ (validationResults E images).keys ↔ r ∈ E.keys) ∧
    ∀ r es, E.get? r = some es →
      ((∃ e, images.get? r = some (.error e)) ↔
        RegionFailsIn E (ec2 r) (es.map (·.id))) ∧
      ((∃ e, (validationResults E images).get? r = some (.error e)) ↔
        RegionFailsIn E (ec2 r) (es.map (·.id))) ∧
      ∀ ec2' images', DescribeImages (amiClients E ec2') (imageIds E) (expectedImagePublic E)
          images' → ec2' r = ec2 r →
        images'.get? r = images.get? r ∧
        (validationResults E images').get? r = (validationResults E images).get? r := by
  have hkeys : ∀ r, r ∈ images.keys ↔ r ∈ E.keys := fun r =>
    ((describeImages_spec h).1 r).trans (mem_keys_amiClients ec2 r)
  refine ⟨hkeys, fun r => ?_, fun r es hes => ?_⟩
  · rw [← hkeys, HashMap.mem_keys, HashMap.mem_keys, get?_validationResults]
    cases images.get? r <;> simp
  have hfails := (describeImagesInRegion_eq_error_iff r (ec2 r) (expectedImagePublic E)
    (es.map (·.id))).trans regionFails_iff
  refine ⟨by simpa [get?_describeImages h hes] using hfails, ?_, fun ec2' images' h' hr => ?_⟩
  · rw [get?_validationResults, get?_describeImages h hes, ← hfails]
    cases describeImagesInRegion r (ec2 r) (expectedImagePublic E) (es.map (·.id)) <;>
      simp [Except.map]
  · have he : images'.get? r = images.get? r := by
      rw [get?_describeImages h' hes, get?_describeImages h hes, hr]
    exact ⟨he, by rw [get?_validationResults, get?_validationResults, he]⟩

/-- The sample: `us-east-1` fails and `us-west-2` does not. -/
theorem validationResults_isolated_throttled_east :
    DescribeImages (amiClients twoRegionFile twoRegionEc2) (imageIds twoRegionFile)
      (expectedImagePublic twoRegionFile) twoRegionImages ∧
    (∀ r, r ∈ twoRegionImages.keys ↔ r ∈ twoRegionFile.keys) ∧
    (∀ r, r ∈ (validationResults twoRegionFile twoRegionImages).keys ↔ r ∈ twoRegionFile.keys) ∧
    ∀ r es, twoRegionFile.get? r = some es →
      ((∃ e, twoRegionImages.get? r = some (.error e)) ↔
        RegionFailsIn twoRegionFile (twoRegionEc2 r) (es.map (·.id))) ∧
      ((∃ e, (validationResults twoRegionFile twoRegionImages).get? r = some (.error e)) ↔
        RegionFailsIn twoRegionFile (twoRegionEc2 r) (es.map (·.id))) ∧
      ∀ ec2' images', DescribeImages (amiClients twoRegionFile ec2') (imageIds twoRegionFile)
          (expectedImagePublic twoRegionFile) images' → ec2' r = twoRegionEc2 r →
        images'.get? r = twoRegionImages.get? r ∧
        (validationResults twoRegionFile images').get? r =
          (validationResults twoRegionFile twoRegionImages).get? r :=
  ⟨describeImages_describeImagesInOrder _ _ _,
    validationResults_isolated (describeImages_describeImagesInOrder _ _ _)⟩

/-- No image id of the expected file is listed with two different `public` values. -/
def PublicityConsistent (E : HashMap Region (List ImageDef)) : Prop :=
  ∀ r r' es es' e e', E.get? r = some es → E.get? r' = some es' → e ∈ es → e' ∈ es' →
    e.id = e'.id → e.public = e'.public

theorem publicityConsistent_iff :
    PublicityConsistent E ↔ ∀ p ∈ E.entries, ∀ p' ∈ E.entries, ∀ e ∈ p.2, ∀ e' ∈ p'.2,
      e.id = e'.id → e.public = e'.public := by
  simp only [PublicityConsistent, HashMap.get?_eq_some_iff]
  exact ⟨fun h p hp p' hp' e he e' he' => h _ _ _ _ e e' hp hp' he he',
    fun h r r' es es' e e' hp hp' he he' => h _ hp _ hp' e he e' he'⟩

instance : DecidablePred PublicityConsistent :=
  fun _ => decidable_of_iff _ publicityConsistent_iff.symm

theorem get?_expectedImagePublic (hE : PublicityConsistent E) {r : Region} {es : List ImageDef}
    (hes : E.get? r = some es) {e : ImageDef} (he : e ∈ es) :
    (expectedImagePublic E).get? e.id = some e.public := by
  refine HashMap.get?_collect_of_agree
    (List.mem_flatMap.mpr ⟨(r, es), HashMap.get?_eq_some_iff.mp hes, List.mem_map_of_mem _ he⟩)
    fun w hw => ?_
  obtain ⟨⟨r', es'⟩, hes', hw⟩ := List.mem_flatMap.mp hw
  obtain ⟨e', he', hid, rfl⟩ : ∃ e' ∈ es', e'.id = e.id ∧ e'.public = w := by simpa using hw
  exact hE r' r es' es e' e (HashMap.get?_eq_some_iff.mpr hes') hes he' he hid

end

end Pubsys.Aws.ValidateAmi
