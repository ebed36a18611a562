import Signpost.Main
import Signpost.Proofs.Cache.Runs
import Signpost.Proofs.Resolution.Containment
import Signpost.Proofs.Resolution.Cycles
import Signpost.Proofs.Resolution.Sharing
import Signpost.Proofs.Server.Containment
import Signpost.Proofs.Server.Caching
import Signpost.Proofs.Server.Startup
import Signpost.Proofs.Resolution.Inline
import Signpost.Resolver.Simple
import Signpost.Settings.Decode
import Signpost.Proofs.Cache.Retention
import Signpost.Proofs.Cache.Release
import Signpost.Proofs.Resolution.Nesting
import Signpost.Proofs.Resolution.Transparency
import Signpost.Proofs.Resolution.Course
import Signpost.Proofs.Resolution.Serving
import Signpost.Proofs.Resolution.DirectoryCache
import Signpost.Proofs.Resolution.Steady
import Signpost.Proofs.Resolution.Reading
import Signpost.Proofs.Cache.Desertion
import Signpost.Proofs.Path.Joining
import Signpost.Proofs.Disk.Growth
import Signpost.Proofs.Path.Keys
import Signpost.Proofs.Disk.Ancestors
import Signpost.Proofs.Resolution.Trails
import Signpost.Proofs.Server.Launching
import Signpost.Proofs.Resolution.Registration
import Signpost.Proofs.Http.Targets
import Signpost.Proofs.Text.Bytes
import Signpost.Proofs.Server.Mounts
import Signpost.Proofs.Resolution.Contents
