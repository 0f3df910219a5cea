import Switchboard.Duration
import Switchboard.ServiceBounds

namespace Switchboard

structure Dispatcher where
  bounds : ServiceBounds
  unit : Duration
  provider : Nat
  pool : Nat
  running : Bool
deriving DecidableEq

inductive Order
  | start
  | stop
deriving DecidableEq

end Switchboard
