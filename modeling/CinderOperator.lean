import CinderOperator.Framework.Go
import CinderOperator.Api.Types
import CinderOperator.Framework.Prog
import CinderOperator.Framework.Cluster
import CinderOperator.Framework.Triple
import CinderOperator.Framework.Trace
import CinderOperator.Controller.Watch
import CinderOperator.Controller.ServiceConfig
import CinderOperator.Controller.Reconcile
import CinderOperator.Properties.Progress
import CinderOperator.Properties.Handlers
import CinderOperator.Properties.Orphans
import CinderOperator.Properties.Converge
import CinderOperator.Properties.Frame
import CinderOperator.Pod.StatefulSet
