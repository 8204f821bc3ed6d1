import Mathlib.Algebra.Group.Nat.Defs

namespace Usque

def usizeMax : Nat := 2 ^ 64 - 1

structure ManagerRuntimeStats where
  maxTcpSocketsPerWorker : Nat
  activeTcpSockets : Nat
  pendingConnects : Nat
  pendingToClientBytes : Nat
  transportPendingSendPackets : Nat
deriving DecidableEq, Repr

namespace ManagerRuntimeStats

def new (maxTcpSocketsPerWorker : Nat) : ManagerRuntimeStats :=
  ⟨maxTcpSocketsPerWorker, 0, 0, 0, 0⟩

def hasRoom (st : ManagerRuntimeStats) : Bool :=
  min (st.activeTcpSockets + st.pendingConnects) usizeMax < st.maxTcpSocketsPerWorker

def tryReserveTcpSlot (st : ManagerRuntimeStats) : Bool × ManagerRuntimeStats :=
  if st.hasRoom then (true, { st with pendingConnects := st.pendingConnects + 1 })
  else (false, st)

def finishReservedTcpConnect (st : ManagerRuntimeStats) : ManagerRuntimeStats :=
  if st.pendingConnects = 0 then st
  else { st with pendingConnects := st.pendingConnects - 1 }

def update (st : ManagerRuntimeStats)
    (activeTcpSockets pendingToClientBytes transportPendingSendPackets : Nat) :
    ManagerRuntimeStats :=
  { st with activeTcpSockets, pendingToClientBytes, transportPendingSendPackets }

def reset (st : ManagerRuntimeStats) : ManagerRuntimeStats :=
  { st.update 0 0 0 with pendingConnects := 0 }

end ManagerRuntimeStats

end Usque
