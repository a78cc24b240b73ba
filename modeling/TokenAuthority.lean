import TokenAuthority.Admission.Registry
import TokenAuthority.Authorization.Policy
import TokenAuthority.Authorization.Resolve
import TokenAuthority.Digest.Sha256
import TokenAuthority.Review
import TokenAuthority.Digest.Base64Url
import TokenAuthority.Text.Blank
import TokenAuthority.Http.MediaType
import TokenAuthority.Http.Message
import TokenAuthority.Http.Percent
import TokenAuthority.Http.StatusLine
import TokenAuthority.Http.Target
import TokenAuthority.Resource.Object
import TokenAuthority.Server.App
import TokenAuthority.Url.Basic
import TokenAuthority.Authentication.AccessTokens
import TokenAuthority.Authentication.Combine
import TokenAuthority.Authentication.Static
import TokenAuthority.Server.Loading
import TokenAuthority.Authentication.Webhook
import TokenAuthority.Settings.Basic
import TokenAuthority.Authorization.PolicyFile
import TokenAuthority.Authentication.TokenFile
import TokenAuthority.LogFilter
import TokenAuthority.Server.Program
import TokenAuthority.Http.Wire
import TokenAuthority.Main
import TokenAuthority.Proofs.Frame
import TokenAuthority.Proofs.RouteAttributes
import TokenAuthority.Proofs.Filters
import TokenAuthority.Proofs.Reviewing
import TokenAuthority.Proofs.Interleaving
import TokenAuthority.Proofs.Revocation
import TokenAuthority.Proofs.TokenChecks
import TokenAuthority.Proofs.Expiry
import TokenAuthority.Proofs.Timeline
import TokenAuthority.Proofs.Conduct
import TokenAuthority.Proofs.Requests
import TokenAuthority.Proofs.TokenLaw
import TokenAuthority.Proofs.Lifetimes
import TokenAuthority.Proofs.Overflow
import TokenAuthority.Proofs.Window
import TokenAuthority.Proofs.Overwriting
import TokenAuthority.Proofs.Alone
import TokenAuthority.Proofs.Effects
import TokenAuthority.Proofs.Unchanged
import TokenAuthority.Proofs.Audience
import TokenAuthority.Proofs.Agreement
import TokenAuthority.Proofs.Timestamps
import TokenAuthority.Proofs.JsonText
import TokenAuthority.Proofs.Entries
import TokenAuthority.Proofs.Records
import TokenAuthority.Proofs.WireFormat
import TokenAuthority.Proofs.Chaining
import TokenAuthority.Proofs.BoundedMap
import TokenAuthority.Proofs.Overfilling
import TokenAuthority.Proofs.History
import TokenAuthority.Proofs.ObjectPath
import TokenAuthority.Proofs.Addressing
import TokenAuthority.Proofs.Calls
import TokenAuthority.Proofs.Ownership
import TokenAuthority.Proofs.Validity
import TokenAuthority.Proofs.BearerGrammar
import TokenAuthority.Proofs.ReviewProtocol
import TokenAuthority.Proofs.CarriedToken
import TokenAuthority.Proofs.TokenVerdict
import TokenAuthority.Proofs.TokenNames
import TokenAuthority.Proofs.ResourcePath
import TokenAuthority.Proofs.RuleMeaning
import TokenAuthority.Proofs.InTurn
import TokenAuthority.Proofs.AuthenticatorUnions
import TokenAuthority.Proofs.AuthorizerUnions
import TokenAuthority.Proofs.AdmissionChain
import TokenAuthority.Proofs.PluginRegistry
import TokenAuthority.Proofs.Issuing
import TokenAuthority.Proofs.CallerIdentity
import TokenAuthority.Proofs.CommaSeparated
