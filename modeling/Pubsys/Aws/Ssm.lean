import Pubsys.Collections

/-!
# SSM parameters

The names, keys and maps the promote-ssm command moves between. `SsmKey`, `BuildContext`
and `key_difference` belong to the ssm module, which is not among the modelled sources;
`key_difference` is rebuilt from the spec's contract for it.
-/

namespace Pubsys.Aws

/-- `aws_sdk::Region`: a region name; `Region::new` and `to_string` are `mk` and `name`. -/
structure Region where
  name : String
deriving DecidableEq, Repr

namespace Ssm

/-- `SsmKey`: a parameter name in one region. -/
structure SsmKey where
  region : Region
  name : String
deriving DecidableEq, Repr

/-- `BuildContext`: what the name templates are rendered with. -/
structure BuildContext where
  variant : String
  arch : String
  image_version : String
deriving DecidableEq, Repr

/-- Parameter values by key, across regions. -/
abbrev SsmParameters := HashMap SsmKey String

/-- Modelled from the spec: `key_difference` (ssm module, absent). Every key of `wanted`
whose value `current` lacks or holds differently, with `wanted`'s value. -/
def keyDifference (wanted current : SsmParameters) : SsmParameters :=
  wanted.filter fun key value => current.get? key ≠ some value

theorem get?_keyDifference {wanted current : SsmParameters} {key : SsmKey} {value : String} :
    (keyDifference wanted current).get? key = some value ↔
      wanted.get? key = some value ∧ current.get? key ≠ some value := by
  simp [keyDifference, HashMap.get?_filter]

end Ssm

end Pubsys.Aws
