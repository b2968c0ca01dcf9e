import EngPc.Model.PortNotify
import EngPc.Model.PortRef

/-!
# Reopening a port

`CPort::reopen` as a whole, with no other thread at the port. `results k` is what the last `::open`
of the call number `k` of `open` returns.
-/

namespace EngPc

/-- The loop over `open` with `second` at its head: what `second` is afterwards, and the port. -/
def reopenLoop : Nat → (Nat → Int) → PortFd → Int × PortFd
  | 0, _, port => (-1, port)
  | second + 1, results, port =>
    match portOpen port (results 0) with
    | (true, port) => (second, port)
    | (false, port) => reopenLoop second (fun k => results (k + 1)) port

/-- What `reopen` returns, what it leaves, and the messages that it gives to `notify`. -/
structure Reopened where
  ret : Int
  port : PortFd
  sent : List (List UInt8)
  deriving DecidableEq, Repr

def portReopen (port : PortFd) (second : Nat) (results : Nat → Int) : Reopened :=
  let nCount := port.nClient
  let r := reopenLoop second results (portClose { port with nClient := 1 })
  { ret := if 0 < r.1 then 0 else -1
    port := { r.2 with nClient := nCount }
    sent := if 0 < r.1 then [msgNotifyUpdateFd] else [] }

end EngPc
