import Signpost.Main
import Signpost.Settings.Json
import Signpost.Sidecar.Session
import Signpost.Proofs.Directory.Provenance
import Signpost.Proofs.Directory.Sharing
import Signpost.Proofs.Url.Reach
import Signpost.Proofs.Identifier.Grammar
import Signpost.Proofs.Identifier.RoundTrip
import Signpost.Proofs.Cache.Answers
import Signpost.Proofs.Cache.Concurrent
import Signpost.Proofs.Directory.Invalidation
import Signpost.Proofs.Directory.Waiting
import Signpost.Proofs.Directory.Abandonment
import Signpost.Proofs.Discovery.Endpoint
import Signpost.Proofs.Identifier.Builders
import Signpost.Proofs.Token.Grants
import Signpost.Proofs.Token.Reuse
import Signpost.Proofs.Text.Form
import Signpost.Proofs.Api.Resolution
import Signpost.Proofs.Directory.Conservation
import Signpost.Proofs.Discovery.Pacing
import Signpost.Proofs.Settings.Loading
import Signpost.Proofs.Json.Records
import Signpost.Proofs.Directory.Population
import Signpost.Proofs.Discovery.Script
import Signpost.Proofs.Url.Origin
import Signpost.Proofs.Retry.Jitter
import Signpost.Proofs.Settings.Lifetime
import Signpost.Proofs.Url.Composition
import Signpost.Proofs.Directory.Removal
import Signpost.Proofs.Retry.Backoff
import Signpost.Proofs.Directory.Volume
import Signpost.Proofs.Sidecar.Rest
