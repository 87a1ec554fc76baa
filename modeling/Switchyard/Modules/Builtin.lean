import Switchyard.Modules.Diagnostics
import Switchyard.Modules.Dns
import Switchyard.Modules.Echo

/-!
# The modules that come with the daemon
-/

namespace Switchyard.Modules

open Route

/-- All modules, in the order in which they are registered. -/
def builtin (setup : Diagnostics.Setup) : List Module :=
  [Echo.module, Dns.module, Diagnostics.module setup]

end Switchyard.Modules
