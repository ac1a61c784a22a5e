import HorovodBasics.Python
import HorovodBasics.Registry
import HorovodBasics.GetProcessSets
import HorovodBasics.Init
import HorovodBasics.InitOutcome
import HorovodBasics.Sentinels
import HorovodBasics.Dynamic
import HorovodBasics.InitialSets
import HorovodBasics.Runs
import HorovodBasics.CommSets
import HorovodBasics.Refinement
