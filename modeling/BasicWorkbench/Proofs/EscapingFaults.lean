import BasicWorkbench.Proofs.CompilerRuns
import BasicWorkbench.Proofs.ReportReading

namespace BasicWorkbench

namespace Machine

variable {m : Machine}

end Machine

end BasicWorkbench
