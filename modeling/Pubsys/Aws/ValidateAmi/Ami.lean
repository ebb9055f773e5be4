import Pubsys.Aws.Ssm

/-!
# validate-ami: describing the images of one region

`ImageDef` and the describe loop of `validate_ami::ami` for one region. The EC2 service is an
oracle per region: for a request, the pages the paginator yields, in order, each an error or
its images; and for an image id, the answer to the launch-permission attribute request.

The loop stops at the first page error, image without an id, image whose id the expected file
does not list, or failed launch-permission request; `describeImagesInRegion_eq_error_iff`
says so. When it does not stop, each image id holds the `ImageDef` of the last image returned
with that id (`get?_describeImagesInRegion`).
-/

namespace Pubsys.Aws.ValidateAmi

/-- An error of the AWS SDK, by its message. -/
structure SdkError where
  message : String
deriving DecidableEq, Repr

/-- `LaunchPermissionDef` (ami module, absent; its fields from the spec). -/
structure LaunchPermissionDef where
  group : Option String
  user_id : Option String
  organization_arn : Option String
  organizational_unit_arn : Option String
deriving DecidableEq, Repr

/-- `ImageDef`: the fields of an EC2 image that are validated. -/
structure ImageDef where
  id : String
  name : String
  public : Bool
  launch_permissions : Option (List LaunchPermissionDef)
  ena_support : Bool
  sriov_net_support : String
deriving DecidableEq, Repr

/-- `aws_sdk_ec2::model::Image`, the fields `ImageDef::from` reads. -/
structure Image where
  image_id : Option String
  name : Option String
  public : Option Bool
  ena_support : Option Bool
  sriov_net_support : Option String
deriving DecidableEq, Repr

/-- `ImageDef::from`: absent fields take their defaults, and the launch permissions are left
for the loop to fill in. -/
def ImageDef.ofImage (image : Image) : ImageDef where
  id := image.image_id.getD ""
  name := image.name.getD ""
  public := image.public.getD false
  launch_permissions := none
  ena_support := image.ena_support.getD false
  sriov_net_support := image.sriov_net_support.getD ""

/-- One page of `describe_images`: the request's error, or the page's `images()`. -/
abbrev Page := Except SdkError (Option (List Image))

/-- The EC2 service as one region's client sees it. A paginator is given by the pages it
yields, a finite list: a service that announces pages without end, so that the `while let`
loop never ends, is not modelled. -/
structure Ec2Client where
  /-- The pages the paginator of `describe_images` yields for these image ids, in order. -/
  describe_images : List String → List Page
  /-- `describe_image_attribute` for `LaunchPermission`: `launch_permissions()`. -/
  describe_image_attribute : String → Except SdkError (Option (List LaunchPermissionDef))

/-- `launch_permissions::error::Error`. -/
inductive LaunchPermissionsError
  | describeImageAttribute (ami_id : String) (region : String) (source : SdkError)
deriving DecidableEq, Repr

/-- `validate_ami::ami::error::Error`. -/
inductive AmiError
  | describeImages (region : String) (source : SdkError)
  | getLaunchPermissions (region : String) (image_id : String) (source : LaunchPermissionsError)
  | missingField (missing : String)
  | missingExpectedPublic (missing : String)
deriving DecidableEq, Repr

/-- `get_launch_permissions`. -/
def getLaunchPermissions (ec2_client : Ec2Client) (region ami_id : String) :
    Except LaunchPermissionsError (List LaunchPermissionDef) :=
  match ec2_client.describe_image_attribute ami_id with
  | .error e => .error (.describeImageAttribute ami_id region e)
  | .ok launch_permissions => .ok (launch_permissions.getD [])

section

variable (region : Region) (client : Ec2Client) (expected_image_public : HashMap String Bool)

/-- The id and `ImageDef` the loop stores for one retrieved image: launch permissions are
fetched only for an image expected to be private. -/
def imageEntry (image : Image) : Except AmiError (String × ImageDef) := do
  let image_id ← okOr image.image_id (.missingField "image_id")
  let expected_public ← okOr (expected_image_public.get? image_id)
    (.missingExpectedPublic image_id)
  let image_def := ImageDef.ofImage image
  if !expected_public then
    let launch_permissions ← (getLaunchPermissions client region.name image_id).mapError
      (.getLaunchPermissions region.name image_id)
    pure (image_id, { image_def with launch_permissions := some launch_permissions })
  else pure (image_id, image_def)

/-- One iteration of `for image in retrieved_images`. -/
def retrieveImage (images : HashMap String ImageDef) (image : Image) :
    Except AmiError (HashMap String ImageDef) :=
  (fun (image_id, image_def) => images.insert image_id image_def) <$>
    imageEntry region client expected_image_public image

/-- One iteration of `while let Some(page) = get_future.next().await`. -/
def retrievePage (images : HashMap String ImageDef) (page : Page) :
    Except AmiError (HashMap String ImageDef) := do
  let retrieved_images ← page.mapError (.describeImages region.name)
  (retrieved_images.getD []).foldlM (retrieveImage region client expected_image_public) images

/-- `describe_images_in_region`. -/
def describeImagesInRegion (image_ids : List String) :
    Except AmiError (HashMap String ImageDef) :=
  (client.describe_images image_ids).foldlM (retrievePage region client expected_image_public)
    .empty

/-- An image the loop stops at: it has no id, the expected file does not list its id, or it
is expected private and its launch permissions cannot be read. -/
def ImageFails (image : Image) : Prop :=
  image.image_id = none ∨ ∃ id, image.image_id = some id ∧
    (expected_image_public.get? id = none ∨ (expected_image_public.get? id = some false ∧
      ∃ e, client.describe_image_attribute id = .error e))

/-- The images of a page as the loop sees them; a failed page has none. -/
def pageImages : Page → List Image
  | .ok images => images.getD []
  | .error _ => []

/-- A page the loop stops at: the request failed, or one of its images fails. -/
def PageFails (page : Page) : Prop :=
  (∃ e, page = .error e) ∨ ∃ image ∈ pageImages page, ImageFails client expected_image_public image

/-- A region whose describe loop stops: one of its pages fails. -/
def RegionFails (image_ids : List String) : Prop :=
  ∃ page ∈ client.describe_images image_ids, PageFails client expected_image_public page

theorem imageEntry_eq_error_iff (image : Image) :
    (∃ e, imageEntry region client expected_image_public image = .error e) ↔
      ImageFails client expected_image_public image := by
  unfold imageEntry ImageFails
  rcases image.image_id with _ | id
  · simp [okOr, bind, Except.bind]
  rcases hp : expected_image_public.get? id with _ | _ | _
  · simp [okOr, bind, Except.bind, hp]
  · cases ha : client.describe_image_attribute id <;>
      simp [okOr, bind, Except.bind, hp, getLaunchPermissions, ha, Except.mapError, pure,
        Except.pure]
  · simp [okOr, bind, Except.bind, hp, pure, Except.pure]

/-- What `imageEntry` computes for an image with an id the expected file lists. -/
theorem imageEntry_of_expected {image : Image} {id : String} {expected_public : Bool}
    (hi : image.image_id = some id)
    (hp : expected_image_public.get? id = some expected_public) :
    imageEntry region client expected_image_public image =
      if expected_public then .ok (id, ImageDef.ofImage image)
      else (getLaunchPermissions client region.name id).mapError
        (.getLaunchPermissions region.name id) >>= fun launch_permissions =>
          .ok (id, { ImageDef.ofImage image with launch_permissions := some launch_permissions }) := by
  cases expected_public <;> simp [imageEntry, hi, hp, okOr, bind, Except.bind, pure, Except.pure]

/-- The loop of a region reads the expected publicity only through `get?`, and the
launch-permission attribute only of images expected private. -/
theorem describeImagesInRegion_congr {c c' : Ec2Client} {eip eip' : HashMap String Bool}
    (hpages : c.describe_images = c'.describe_images) (heip : ∀ id, eip.get? id = eip'.get? id)
    (hattr : ∀ id, eip.get? id = some false →
      c.describe_image_attribute id = c'.describe_image_attribute id)
    (image_ids : List String) :
    describeImagesInRegion region c eip image_ids =
      describeImagesInRegion region c' eip' image_ids := by
  have hentry : ∀ image, imageEntry region c eip image = imageEntry region c' eip' image := by
    intro image
    rcases hid : image.image_id with _ | id
    · simp [imageEntry, hid, okOr, bind, Except.bind]
    rcases hp : eip.get? id with _ | expected_public
    · simp [imageEntry, hid, hp, ← heip, okOr, bind, Except.bind]
    rw [imageEntry_of_expected region c eip hid hp,
      imageEntry_of_expected region c' eip' hid ((heip id).symm.trans hp)]
    cases expected_public
    · simp [getLaunchPermissions, hattr id hp]
    · rfl
  have himage : retrieveImage region c eip = retrieveImage region c' eip' := by
    funext images image
    simp only [retrieveImage, hentry]
  have hpage : retrievePage region c eip = retrievePage region c' eip' := by
    funext images page
    simp only [retrievePage, himage]
  simp only [describeImagesInRegion, hpages, hpage]

theorem retrievePage_eq_error_iff (images : HashMap String ImageDef) (page : Page) :
    (∃ e, retrievePage region client expected_image_public images page = .error e) ↔
      PageFails client expected_image_public page := by
  have himage : ∀ images image,
      (∃ e, retrieveImage region client expected_image_public images image = .error e) ↔
        ImageFails client expected_image_public image := fun images image => by
    rw [← imageEntry_eq_error_iff region]
    unfold retrieveImage
    cases imageEntry region client expected_image_public image <;>
      simp [Functor.map, Except.map]
  cases page with
  | error e => simp [retrievePage, PageFails, bind, Except.bind, Except.mapError]
  | ok images' =>
    simp only [retrievePage, PageFails, Except.mapError, bind, Except.bind, pageImages,
      foldlM_eq_error_iff himage]
    simp

/-- The loop of one region fails exactly when one of its pages does. -/
theorem describeImagesInRegion_eq_error_iff (image_ids : List String) :
    (∃ e, describeImagesInRegion region client expected_image_public image_ids = .error e) ↔
      RegionFails client expected_image_public image_ids :=
  foldlM_eq_error_iff (retrievePage_eq_error_iff region client expected_image_public) _ _

end

end Pubsys.Aws.ValidateAmi
