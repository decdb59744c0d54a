import Logbook.Proofs.Configuration
import Logbook.Proofs.Cut

namespace Logbook

namespace Logger

variable (l : Logger)

end Logger

end Logbook
