import Warden.Basic
import Warden.Id.TypeId
import Warden.Id.Id
import Warden.Abac.Condition
import Warden.Abac.Evaluator
import Warden.Cache.Memory
import Warden.Engine.Cached
import Warden.Engine.Monotone
import Warden.Engine.Grants
import Warden.Store.Writes
import Warden.Engine.Offboarding
import Warden.Api.Handlers
import Warden.Api.Server
import Warden.Api.Middleware
import Warden.Api.Revocation
import Warden.Api.RoundTrip
