import BasicWorkbench.Commands
import BasicWorkbench.Proofs.EscapingFaults
import BasicWorkbench.Proofs.PathTexts

namespace BasicWorkbench

namespace Machine

variable {m : Machine}

end Machine

end BasicWorkbench
