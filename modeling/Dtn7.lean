import Dtn7.Bundle.Endpoint
import Dtn7.Bundle.PrimaryBlock
import Dtn7.Bundle.PrimaryBlockCodec
import Dtn7.Bundle.Bundle
import Dtn7.Bundle.Duration
import Dtn7.Bundle.Builder
import Dtn7.Bundle.BuilderRuns
import Dtn7.Core.BundlePack
import Dtn7.Core.Store
import Dtn7.Core.IdKeeper
import Dtn7.Core.Core
import Dtn7.Core.Processing
import Dtn7.Core.AdministrativeRecord
import Dtn7.Core.Receive
import Dtn7.Core.Forward
import Dtn7.Core.FanOut
import Dtn7.Core.Trace
import Dtn7.Core.Interleaving
import Dtn7.Core.Segment
import Dtn7.Core.Stages
import Dtn7.Core.Reports
import Dtn7.Core.Chain
import Dtn7.Core.Fresh
import Dtn7.Core.Sequences
import Dtn7.Cla.Tcpcl
