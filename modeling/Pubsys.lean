import Pubsys.Collections
import Pubsys.Aws.Ssm
import Pubsys.Aws.PromoteSsm.Plan
import Pubsys.Aws.PromoteSsm.Combine
import Pubsys.Aws.PromoteSsm.Run
import Pubsys.Aws.PromoteSsm.Snapshot
import Pubsys.Aws.PromoteSsm.Store
import Pubsys.Aws.PromoteSsm.Record
import Pubsys.Aws.ValidateAmi.Ami
import Pubsys.Aws.ValidateAmi.Fanout
import Pubsys.Aws.ValidateAmi.Validate
import Pubsys.Aws.ValidateAmi.Run
import Pubsys.Aws.ValidateAmi.Independence
