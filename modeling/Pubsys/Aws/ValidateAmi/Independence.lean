import Pubsys.Aws.ValidateAmi.Validate

/-!
# validate-ami: what the results depend on

The results map of a run is a function of the expected images of each region and of what each
region's EC2 service answers, and of less than that:

* `validationResults_congr_ec2`: a region's entry is the same over every completion order of
  `describe_images`, and the same for two services that return the same pages and the same
  launch permissions for the images expected private. The launch permissions of an image
  expected public, or of an id the expected file does not list, are never read.
* `validationResults_congr_expected`: when no image id is listed with two publicities, a
  region's entry does not depend on the iteration order of the expected-images map, though
  `expected_image_public` is collected along it.
-/

namespace Pubsys.Aws.ValidateAmi

section

variable {E : HashMap Region (List ImageDef)} {ec2 : Region → Ec2Client}
  {images : HashMap Region (Except AmiError (HashMap String ImageDef))}

/-- A region the expected file does not list is not described. -/
theorem get?_describeImages_eq_none
    (h : DescribeImages (amiClients E ec2) (imageIds E) (expectedImagePublic E) images)
    {r : Region} (hr : E.get? r = none) : images.get? r = none :=
  HashMap.get?_eq_none_iff.mpr fun hk => HashMap.get?_eq_none_iff.mp hr
    ((mem_keys_amiClients ec2 r).mp (((describeImages_spec h).1 r).mp hk))

/-- A region's entry over every completion order of `describe_images`, for two EC2 services
that return the same pages and the same launch permissions for the images expected private:
the described images and the validation results are the same. -/
theorem validationResults_congr_ec2 {ec2' : Region → Ec2Client}
    {images' : HashMap Region (Except AmiError (HashMap String ImageDef))}
    (hpages : ∀ r, (ec2 r).describe_images = (ec2' r).describe_images)
    (hattr : ∀ r id, (expectedImagePublic E).get? id = some false →
      (ec2 r).describe_image_attribute id = (ec2' r).describe_image_attribute id)
    (h : DescribeImages (amiClients E ec2) (imageIds E) (expectedImagePublic E) images)
    (h' : DescribeImages (amiClients E ec2') (imageIds E) (expectedImagePublic E) images')
    (r : Region) :
    images.get? r = images'.get? r ∧
      (validationResults E images).get? r = (validationResults E images').get? r := by
  have himages : images.get? r = images'.get? r := by
    cases hes : E.get? r with
    | none => rw [get?_describeImages_eq_none h hes, get?_describeImages_eq_none h' hes]
    | some es =>
      rw [get?_describeImages h hes, get?_describeImages h' hes,
        describeImagesInRegion_congr r (hpages r) (fun _ => rfl) (hattr r)]
  exact ⟨himages, by rw [get?_validationResults, get?_validationResults, himages]⟩

/-- The sample's services with every launch-permission request denied, but for the two images
the sample expects private. -/
def twoRegionEc2Denied (region : Region) : Ec2Client :=
  { twoRegionEc2 region with
    describe_image_attribute := fun id =>
      if id = "ami-west" ∨ id = "ami-east" then (twoRegionEc2 region).describe_image_attribute id
      else .error ⟨"AccessDenied"⟩ }

theorem validationResults_congr_ec2_denied :
    (∀ r, (twoRegionEc2 r).describe_images = (twoRegionEc2Denied r).describe_images) ∧
    (∀ r id, (expectedImagePublic twoRegionFile).get? id = some false →
      (twoRegionEc2 r).describe_image_attribute id =
        (twoRegionEc2Denied r).describe_image_attribute id) ∧
    DescribeImages (amiClients twoRegionFile twoRegionEc2) (imageIds twoRegionFile)
      (expectedImagePublic twoRegionFile) twoRegionImages ∧
    DescribeImages (amiClients twoRegionFile twoRegionEc2Denied) (imageIds twoRegionFile)
      (expectedImagePublic twoRegionFile)
      (describeImagesInOrder (amiClients twoRegionFile twoRegionEc2Denied)
        (imageIds twoRegionFile) (expectedImagePublic twoRegionFile)) ∧
    ∀ r, twoRegionImages.get? r = (describeImagesInOrder (amiClients twoRegionFile
        twoRegionEc2Denied) (imageIds twoRegionFile) (expectedImagePublic twoRegionFile)).get? r ∧
      (validationResults twoRegionFile twoRegionImages).get? r =
        (validationResults twoRegionFile (describeImagesInOrder (amiClients twoRegionFile
          twoRegionEc2Denied) (imageIds twoRegionFile)
          (expectedImagePublic twoRegionFile))).get? r := by
  have hattr : ∀ r id, (expectedImagePublic twoRegionFile).get? id = some false →
      (twoRegionEc2 r).describe_image_attribute id =
        (twoRegionEc2Denied r).describe_image_attribute id := fun r id h => by
    have hid := HashMap.mem_of_get?_collect h
    simp only [twoRegionFile, westImage, List.flatMap_cons, List.flatMap_nil, List.map_cons,
      List.map_nil, List.cons_append, List.nil_append, List.mem_cons, Prod.mk.injEq,
      List.not_mem_nil, or_false] at hid
    simp [twoRegionEc2Denied, hid.imp And.left And.left]
  have hpages : ∀ r, (twoRegionEc2 r).describe_images = (twoRegionEc2Denied r).describe_images :=
    fun _ => rfl
  exact ⟨hpages, hattr, describeImages_describeImagesInOrder _ _ _,
    describeImages_describeImagesInOrder _ _ _, validationResults_congr_ec2 hpages hattr
      (describeImages_describeImagesInOrder _ _ _) (describeImages_describeImagesInOrder _ _ _)⟩

/-- Without two publicities for one id, `expected_image_public` says of each listed id whether
it is listed public. -/
theorem get?_expectedImagePublic_eq_some_iff (hE : PublicityConsistent E) {id : String}
    {b : Bool} : (expectedImagePublic E).get? id = some b ↔
      ∃ r es e, E.get? r = some es ∧ e ∈ es ∧ e.id = id ∧ e.public = b := by
  constructor
  · intro h
    obtain ⟨⟨r, es⟩, hes, hpair⟩ := List.mem_flatMap.mp (HashMap.mem_of_get?_collect h)
    obtain ⟨e, he, rfl, rfl⟩ : ∃ e ∈ es, e.id = id ∧ e.public = b := by simpa using hpair
    exact ⟨r, es, e, HashMap.get?_eq_some_iff.mpr hes, he, rfl, rfl⟩
  · rintro ⟨r, es, e, hes, he, rfl, rfl⟩
    exact get?_expectedImagePublic hE hes he

/-- Without two publicities for one id, a region's entry does not depend on the iteration order
of the expected-images map: two maps with the same regions and images give the same described
images and the same validation results, over every completion order. -/
theorem validationResults_congr_expected {E' : HashMap Region (List ImageDef)}
    {images' : HashMap Region (Except AmiError (HashMap String ImageDef))}
    (hE : PublicityConsistent E) (hEE' : ∀ r, E.get? r = E'.get? r)
    (h : DescribeImages (amiClients E ec2) (imageIds E) (expectedImagePublic E) images)
    (h' : DescribeImages (amiClients E' ec2) (imageIds E') (expectedImagePublic E') images')
    (r : Region) :
    images.get? r = images'.get? r ∧
      (validationResults E images).get? r = (validationResults E' images').get? r := by
  have hE' : PublicityConsistent E' := fun r r' es es' e e' h₁ h₂ =>
    hE r r' es es' e e' ((hEE' r).trans h₁) ((hEE' r').trans h₂)
  have heip : ∀ id, (expectedImagePublic E).get? id = (expectedImagePublic E').get? id :=
    fun id => Option.ext fun b => by
      simp only [Option.mem_def, get?_expectedImagePublic_eq_some_iff hE,
        get?_expectedImagePublic_eq_some_iff hE', hEE']
  have himages : images.get? r = images'.get? r := by
    cases hes : E.get? r with
    | none =>
      rw [get?_describeImages_eq_none h hes, get?_describeImages_eq_none h' ((hEE' r) ▸ hes)]
    | some es =>
      rw [get?_describeImages h hes, get?_describeImages h' ((hEE' r) ▸ hes),
        describeImagesInRegion_congr r rfl heip fun _ _ => rfl]
  exact ⟨himages, by rw [get?_validationResults, get?_validationResults, himages, hEE']⟩

end

/-- The sample's expected file, its regions iterated the other way round. -/
def twoRegionFileSwapped : HashMap Region (List ImageDef) :=
  ⟨twoRegionFile.entries.reverse, by decide⟩

theorem validationResults_congr_expected_swapped :
    PublicityConsistent twoRegionFile ∧
    (∀ r, twoRegionFile.get? r = twoRegionFileSwapped.get? r) ∧
    DescribeImages (amiClients twoRegionFile twoRegionEc2) (imageIds twoRegionFile)
      (expectedImagePublic twoRegionFile) twoRegionImages ∧
    DescribeImages (amiClients twoRegionFileSwapped twoRegionEc2) (imageIds twoRegionFileSwapped)
      (expectedImagePublic twoRegionFileSwapped)
      (describeImagesInOrder (amiClients twoRegionFileSwapped twoRegionEc2)
        (imageIds twoRegionFileSwapped) (expectedImagePublic twoRegionFileSwapped)) ∧
    ∀ r, twoRegionImages.get? r = (describeImagesInOrder (amiClients twoRegionFileSwapped
        twoRegionEc2) (imageIds twoRegionFileSwapped)
        (expectedImagePublic twoRegionFileSwapped)).get? r ∧
      (validationResults twoRegionFile twoRegionImages).get? r =
        (validationResults twoRegionFileSwapped (describeImagesInOrder (amiClients
          twoRegionFileSwapped twoRegionEc2) (imageIds twoRegionFileSwapped)
          (expectedImagePublic twoRegionFileSwapped))).get? r :=
  ⟨by decide, HashMap.get?_eq_of_perm (by decide), describeImages_describeImagesInOrder _ _ _,
    describeImages_describeImagesInOrder _ _ _,
    validationResults_congr_expected (by decide) (HashMap.get?_eq_of_perm (by decide))
      (describeImages_describeImagesInOrder _ _ _) (describeImages_describeImagesInOrder _ _ _)⟩

end Pubsys.Aws.ValidateAmi
