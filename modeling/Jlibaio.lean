import Jlibaio.Ring
import Jlibaio.Pool
import Jlibaio.Context
import Jlibaio.System
import Jlibaio.Exec
import Jlibaio.Spec
import Jlibaio.Conservation
import Jlibaio.ErrorPaths
import Jlibaio.Harvest
import Jlibaio.Race
import Jlibaio.Handles
import Jlibaio.Batch
import Jlibaio.NewContext
import Jlibaio.Fill
import Jlibaio.Library
import Jlibaio.Buffers
import Jlibaio.Files
