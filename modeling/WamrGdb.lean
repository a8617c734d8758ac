import WamrGdb.Target
import WamrGdb.Utils
import WamrGdb.Types
import WamrGdb.Objects
import WamrGdb.Print
import WamrGdb.Frame
import WamrGdb.ExecEnv
import WamrGdb.Dbg
