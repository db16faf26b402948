import RedroidExt.Dhcp.Renewal

/-!
# Giving a lease up

A NAK halts the network, and that is the only path that takes the address off the
interface. Giving up in Rebinding does not, a gateway that cannot be set does not,
and no timer runs to the end of the lease: T1 and T2 only start renewals.
-/

namespace RedroidExt.Dhcp

open RedroidExt.Library RedroidExt.Library.ByteMemory

set_option autoImplicit false

/-- Every operation of `Interface` succeeds; the router is not among them. -/
structure KernelAnswers.InterfaceSucceeds (answers : KernelAnswers) : Prop where
  flagsRead : answers.flagsRead = true
  flagsWritten : answers.flagsWritten = true
  mtuWritten : answers.mtuWritten = true
  address : answers.address = .done

namespace DhcpClient

theorem configure_interface_succeeds {answers : KernelAnswers}
    (succeeds : answers.InterfaceSucceeds) (host : Host) (name : String) (info : DhcpInfo) :
    (configureInterface host name info answers).1 = true := by
  rcases configure_interface_split host name info answers with ⟨down, -⟩ | ⟨before, -, set⟩
  · unfold Host.bringUp Host.setInterfaceUp at down
    rw [succeeds.flagsRead, succeeds.flagsWritten] at down
    by_cases same : host.isUp = true
    · simp [same] at down
    · simp [same] at down
  · rw [set]
    unfold Host.setAddress
    rw [succeeds.address]

end DhcpClient

namespace ClientRun

def InterfaceSucceeds (run : ClientRun) (input : ClientInput) : Prop :=
  ∀ msg answers, run.received input = some (msg, answers) → answers.InterfaceSucceeds

end ClientRun

end RedroidExt.Dhcp
