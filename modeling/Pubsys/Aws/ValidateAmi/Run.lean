import Pubsys.Aws.ValidateAmi.Validate

/-!
# validate-ami: the command

`parse_expected_amis` and `validate` as functions of what they read from outside: Infra.toml,
the expected-images file, each region's EC2 service and the results file. All are oracles
that may answer anything, errors included. A JSON value is kept only as far as the derived
`Deserialize` of `ImageDef` looks into it: an image is an object or an array of its fields,
and each field a string, a boolean, `null`, an array of launch permissions or another value.
`describe_images` completes its regions in any order, so `Validate` is the relation between a
run's inputs and the outcomes it can end with; the results theorems of `Validate.lean` and
`Independence.lean` are about the map it returns.
-/

namespace Pubsys.Aws.ValidateAmi

/-- `default_ena_support`. -/
def defaultEnaSupport : Bool := true

/-- `default_sriov_net_support`. -/
def defaultSriovNetSupport : String := "simple"

/-- A JSON value where the derived `Deserialize` of `ImageDef` reads one field: a string, a
boolean, `null`, an array of launch permissions, or any other value. -/
inductive FieldValue
  | string (s : String)
  | bool (b : Bool)
  | null
  | launchPermissions (permissions : List LaunchPermissionDef)
  | other
deriving DecidableEq, Repr

/-- A JSON value where `serde_json::from_value::<ImageDef>` expects an image: an object, by
the fields the derived `Deserialize` reads (`none` for a field the object lacks), an array of
field values, or any other value. -/
inductive ImageValue
  | object (id name public launch_permissions ena_support sriov_net_support : Option FieldValue)
  | array (values : List FieldValue)
  | other
deriving DecidableEq, Repr

/-- Why an image value does not deserialize: an object lacks a required field, a value has
the wrong type, or an array has too few or too many items. -/
inductive DeserializeError
  | missingField (field : String)
  | invalidType
  | invalidLength (length : Nat)
deriving DecidableEq, Repr

/-- The `Deserialize` of `String`. -/
def readString : FieldValue → Except DeserializeError String
  | .string s => .ok s
  | _ => .error .invalidType

/-- The `Deserialize` of `bool`. -/
def readBool : FieldValue → Except DeserializeError Bool
  | .bool b => .ok b
  | _ => .error .invalidType

/-- The `Deserialize` of `Option<Vec<LaunchPermissionDef>>`: `null` is `None`. -/
def readLaunchPermissions :
    FieldValue → Except DeserializeError (Option (List LaunchPermissionDef))
  | .null => .ok none
  | .launchPermissions permissions => .ok (some permissions)
  | _ => .error .invalidType

/-- The item at `index` of an array of field values, read by `read`, or `missing` when the
array has no such item. -/
def readItem {α : Type} (values : List FieldValue) (index : Nat)
    (read : FieldValue → Except DeserializeError α) (missing : Except DeserializeError α) :
    Except DeserializeError α :=
  match values.get? index with
  | some value => read value
  | none => missing

/-- `serde_json::from_value::<ImageDef>`. An object is read as the derived `visit_map` reads
it: its present fields in the order of serde_json's map, sorted by key, then `id` and `name`
must be present, and a field it lacks takes its `#[serde(default)]`, or `None` for
`launch_permissions`. An array is read as `visit_seq` reads it: item by item in declaration
order, a missing item taking its field's default where there is one and failing otherwise;
serde_json then rejects an array with items left over. -/
def ImageDef.fromValue : ImageValue → Except DeserializeError ImageDef
  | .object id name public launch_permissions ena_support sriov_net_support => do
    let ena_support ← ena_support.mapM readBool
    let id ← id.mapM readString
    let launch_permissions ← launch_permissions.mapM readLaunchPermissions
    let name ← name.mapM readString
    let public ← public.mapM readBool
    let sriov_net_support ← sriov_net_support.mapM readString
    let id ← okOr id (.missingField "id")
    let name ← okOr name (.missingField "name")
    pure ⟨id, name, public.getD false, launch_permissions.getD none,
      ena_support.getD defaultEnaSupport, sriov_net_support.getD defaultSriovNetSupport⟩
  | .array values => do
    let id ← readItem values 0 readString (.error (.invalidLength 0))
    let name ← readItem values 1 readString (.error (.invalidLength 1))
    let public ← readItem values 2 readBool (pure false)
    let launch_permissions ← readItem values 3 readLaunchPermissions (.error (.invalidLength 3))
    let ena_support ← readItem values 4 readBool (pure defaultEnaSupport)
    let sriov_net_support ← readItem values 5 readString (pure defaultSriovNetSupport)
    if 6 < values.length then throw (.invalidLength values.length)
    pure ⟨id, name, public, launch_permissions, ena_support, sriov_net_support⟩
  | .other => .error .invalidType

/-- The value of one region in the expected-images file: an array, an object, or any other
value. -/
inductive RegionValue
  | array (values : List ImageValue)
  | object (id name public launch_permissions ena_support sriov_net_support : Option FieldValue)
  | other
deriving DecidableEq, Repr

/-- The image values of a region: an array's items, or the one value wrapped in a list. -/
def RegionValue.imageValues : RegionValue → List ImageValue
  | .array values => values
  | .object id name public launch_permissions ena_support sriov_net_support =>
    [.object id name public launch_permissions ena_support sriov_net_support]
  | .other => [.other]

/-- A `serde_json::Error` of the expected-images file: it is not a map of JSON values, or one
of its image values does not deserialize. -/
inductive JsonError
  | malformed (message : String)
  | image (source : DeserializeError)
deriving DecidableEq, Repr

/-- `validate_ami::error::Error`, the variants `parse_expected_amis` and `validate` return. -/
inductive Error
  | config (source : String)
  | parseExpectedImagesFile (source : JsonError)
  | readExpectedImagesFile (path : String) (source : String)
  | serializeValidationResults (source : String)
  | writeValidationResults (path : String) (source : String)
deriving DecidableEq, Repr

/-- The expected-images file: the error of `File::open`, or what `serde_json::from_reader`
gives, its error or the region names with their JSON values. -/
abbrev ExpectedAmisFile := Except String (Except String (HashMap String RegionValue))

/-- `parse_expected_amis`. -/
def parseExpectedAmis (expected_amis_path : String) (file : ExpectedAmisFile) :
    Except Error (HashMap Region (List ImageDef)) := do
  let reader ← file.mapError (.readExpectedImagesFile expected_amis_path)
  let expected_amis ← reader.mapError fun e => .parseExpectedImagesFile (.malformed e)
  let vectored_images : HashMap Region (List ImageValue) :=
    HashMap.collect <| expected_amis.entries.map fun (region, value) => (⟨region⟩, value.imageValues)
  let image_map ← (HashMap.collect <$> vectored_images.entries.mapM
      fun (e : Region × List ImageValue) => (e.1, ·) <$> e.2.mapM ImageDef.fromValue).mapError fun e =>
    .parseExpectedImagesFile (.image e)
  pure image_map

/-- `ValidateAmiArgs`, the fields `validate` reads. -/
structure ValidateAmiArgs where
  expected_amis_path : String
  write_results_path : Option String
  write_results_filter : Option (List AmiValidationResultStatus)

/-- `AmiValidationResults` (results module, absent), by the map it is built from. -/
abbrev AmiValidationResults := HashMap Region (Except AmiError (HashSet AmiValidationResult))

/-- Everything `validate` reads and writes besides its arguments. -/
structure ValidateEnv where
  /-- `InfraConfig::from_path_or_lock`: the regions of its `aws` section (`none` without
  one), or its error. -/
  infra_config : Except String (Option (List String))
  expected_amis : ExpectedAmisFile
  /-- Each region's EC2 service, as the client built for that region sees it. -/
  ec2 : Region → Ec2Client
  /-- `File::create` of the results path. -/
  create_file : String → Except String Unit
  /-- `serde_json::to_writer_pretty` of `get_results_for_status` of the results, for the
  statuses given. -/
  write_results : AmiValidationResults → List AmiValidationResultStatus → Except String Unit

/-- How `validate` ends badly: it returns an error, or it panics. -/
inductive Failure
  | error (e : Error)
  | panic
deriving DecidableEq, Repr

/-- `validate` up to `describe_images`: the expected images, or how it stops. The base
region of the clients' configuration is `aws.regions[0]`, which panics on no region. -/
def prepare (env : ValidateEnv) (args : ValidateAmiArgs) :
    Except Failure (HashMap Region (List ImageDef)) := do
  let aws ← env.infra_config.mapError fun e => .error (.config e)
  let expected_images ← (parseExpectedAmis args.expected_amis_path env.expected_amis).mapError
    .error
  let _ ← okOr (aws.getD []).head? .panic
  pure expected_images

/-- `validate` after `describe_images`: the results, written first when a path is given. -/
def finish (env : ValidateEnv) (args : ValidateAmiArgs)
    (expected_images : HashMap Region (List ImageDef))
    (images : HashMap Region (Except AmiError (HashMap String ImageDef))) :
    Except Failure AmiValidationResults := do
  let validation_results := validationResults expected_images images
  if let some write_results_path := args.write_results_path then
    (env.create_file write_results_path).mapError fun e =>
      .error (.writeValidationResults write_results_path e)
    (env.write_results validation_results
        (args.write_results_filter.getD [.correct, .incorrect, .missing])).mapError fun e =>
      .error (.serializeValidationResults e)
  pure validation_results

/-- `validate`: the outcomes a run can end with, over every order in which the regions'
`describe_images` futures complete. -/
def Validate (env : ValidateEnv) (args : ValidateAmiArgs)
    (outcome : Except Failure AmiValidationResults) : Prop :=
  match prepare env args with
  | .error f => outcome = .error f
  | .ok expected_images => ∃ images, DescribeImages (amiClients expected_images env.ec2)
      (imageIds expected_images) (expectedImagePublic expected_images) images ∧
      outcome = finish env args expected_images images

end Pubsys.Aws.ValidateAmi
