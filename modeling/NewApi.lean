import NewApi.Model.QuotaReserveTheorems
import NewApi.Model.SubscriptionGroupTheorems
import NewApi.Model.UserAuthCacheTheorems
import NewApi.Model.SessionRefreshTheorems
import NewApi.Plan.Enforcement
import NewApi.Plan.Reserve
import NewApi.Platform.RedemptionTheorems
import NewApi.Service.BillingOpening
import NewApi.Model.BatchUpdateTheorems
import NewApi.Billingexpr.UsedVars
import NewApi.Service.RealtimeTheorems
import NewApi.Service.ConversionTheorems
import NewApi.Service.TaskCharge
import NewApi.Model.SubscriptionBounds
import NewApi.Model.TopUpTheorems
import NewApi.Tenant.InsertTheorems
import NewApi.Tenant.ScopeTheorems
import NewApi.Model.AuthFlowTheorems
import NewApi.Platform.DomainTheorems
import NewApi.Tenant.HostTheorems
import NewApi.Service.ProtectedFetchTheorems
import NewApi.Service.BillingUsage
import NewApi.Middleware.TokenBucket
import NewApi.Model.ChannelChoice
import NewApi.Model.ChannelStatus
import NewApi.Model.SubscriptionCatchUp
import NewApi.Platform.PlanExtension
import NewApi.Service.TaskPriceTerms
import NewApi.Service.TieredSmoke
import NewApi.Relay.ModelMapped
