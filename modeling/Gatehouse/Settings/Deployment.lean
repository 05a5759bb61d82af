import Gatehouse.Service.Exchange
import Gatehouse.Settings.Gate

/-!
# The service of a deployment

The limits of a deployment are among its settings; the time limit is set in
seconds and kept in milliseconds. Together with a gate they make a service.
-/

namespace Gatehouse

namespace Settings

/-- What a request may cost in this deployment. -/
def limits (settings : Settings) : Limits := ⟨settings.timeoutSecs * 1000, settings.bodyLimit⟩

/-- The service with the limits of this deployment behind a given gate. -/
def serviceBehind (settings : Settings) (gate : Pipeline) : Service := ⟨gate, settings.limits⟩

/-- The service of a deployment behind its own gate. -/
def service (settings : Settings) : Except SealError Service :=
  settings.pipeline.map settings.serviceBehind

end Settings

end Gatehouse
