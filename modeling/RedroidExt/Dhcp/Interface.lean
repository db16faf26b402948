import RedroidExt.Dhcp.Message

/-!
# The client's interface, router and timers

`interface.cpp`, `router.cpp` and `timer.cpp` over the part of the kernel they
change. What the kernel answers to each call is an argument. Times are readings
of the monotonic clock in milliseconds.
-/

namespace RedroidExt.Dhcp

open RedroidExt.Library RedroidExt.Library.ByteMemory

set_option autoImplicit false

/-- The configuration of one interface, the default route and the system properties. -/
structure Host where
  address : InAddr
  prefixLength : Nat
  broadcast : InAddr
  isUp : Bool
  mtu : UInt16
  gateway : InAddr
  property : String → String

/-- What `Interface` reads once and keeps. -/
structure Interface where
  mInterfaceName : String
  mIndex : UInt32
  mMacAddress : MacAddress

/-- The netlink request of `setAddress` succeeds, is refused, or is applied although no
acknowledgement of it is read. -/
inductive AddressAnswer where
  | done
  | refused
  | unconfirmed
  deriving DecidableEq

/-- The kernel's answers while one message is handled. -/
structure KernelAnswers where
  flagsRead : Bool
  flagsWritten : Bool
  mtuWritten : Bool
  address : AddressAnswer
  gatewayWritten : Bool
  propertyWritten : String → Bool

namespace Host

def setInterfaceUp (host : Host) (shouldBeUp : Bool) (answers : KernelAnswers) : Bool × Host :=
  if ¬ answers.flagsRead then (false, host)
  else if host.isUp = shouldBeUp then (true, host)
  else if ¬ answers.flagsWritten then (false, host)
  else (true, { host with isUp := shouldBeUp })

def bringUp (host : Host) (answers : KernelAnswers) : Bool × Host :=
  host.setInterfaceUp true answers

def bringDown (host : Host) (answers : KernelAnswers) : Bool × Host :=
  host.setInterfaceUp false answers

def setMtu (host : Host) (mtu : UInt16) (answers : KernelAnswers) : Bool × Host :=
  if ¬ answers.mtuWritten then (false, host) else (true, { host with mtu := mtu })

def broadcastFromNetmask (address netmask : InAddr) : InAddr := address ||| ~~~netmask

/-- `__builtin_popcount`. -/
def popcount (word : UInt32) : Nat := (List.range 32).countP word.toNat.testBit

/-- What the kernel makes of the request. -/
def withAddress (host : Host) (address subnetMask : InAddr) : Host :=
  { host with
    address := address
    prefixLength := popcount subnetMask
    broadcast := broadcastFromNetmask address subnetMask }

def setAddress (host : Host) (address subnetMask : InAddr) (answers : KernelAnswers) :
    Bool × Host :=
  match answers.address with
  | .done => (true, host.withAddress address subnetMask)
  | .refused => (false, host)
  | .unconfirmed => (false, host.withAddress address subnetMask)

/-- `Router::setDefaultGateway`. -/
def setDefaultGateway (host : Host) (gateway : InAddr) (answers : KernelAnswers) : Bool × Host :=
  if ¬ answers.gatewayWritten then (false, host) else (true, { host with gateway := gateway })

/-- `property_set`; the code only logs a failure. -/
def setProperty (host : Host) (name value : String) (answers : KernelAnswers) : Host :=
  if answers.propertyWritten name then
    { host with property := fun other => if other = name then value else host.property other }
  else host

theorem set_interface_up_address (host : Host) (shouldBeUp : Bool) (answers : KernelAnswers) :
    (host.setInterfaceUp shouldBeUp answers).2.address = host.address := by
  unfold setInterfaceUp
  split_ifs <;> rfl

theorem set_mtu_address (host : Host) (mtu : UInt16) (answers : KernelAnswers) :
    (host.setMtu mtu answers).2.address = host.address := by
  unfold setMtu
  split_ifs <;> rfl

theorem set_default_gateway_address (host : Host) (gateway : InAddr) (answers : KernelAnswers) :
    (host.setDefaultGateway gateway answers).2.address = host.address := by
  unfold setDefaultGateway
  split_ifs <;> rfl

theorem set_property_address (host : Host) (name value : String) (answers : KernelAnswers) :
    (host.setProperty name value answers).address = host.address := by
  unfold setProperty
  split_ifs <;> rfl

/-- A call that reports success has set the address. -/
theorem set_address_success {host : Host} {address subnetMask : InAddr} {answers : KernelAnswers}
    (succeeded : (host.setAddress address subnetMask answers).1 = true) :
    (host.setAddress address subnetMask answers).2.address = address := by
  unfold setAddress at succeeded ⊢
  cases answer : answers.address with
  | done => rfl
  | refused => simp [answer] at succeeded
  | unconfirmed => simp [answer] at succeeded

/-- In any case the address is the old or the new one. -/
theorem set_address_either (host : Host) (address subnetMask : InAddr) (answers : KernelAnswers) :
    (host.setAddress address subnetMask answers).2.address = address ∨
      (host.setAddress address subnetMask answers).2.address = host.address := by
  unfold setAddress
  cases answers.address with
  | done => exact .inl rfl
  | refused => exact .inr rfl
  | unconfirmed => exact .inl rfl

end Host

/-- Four bytes in the order they have in memory, as decimal numbers with dots between. -/
def addrToStr (address : InAddr) : String :=
  ".".intercalate ((bytes32 address).map fun byte => toString byte.toNat)

structure Timer where
  mExpires : Nat

namespace Timer

def expireSeconds (now seconds : Nat) : Timer := { mExpires := now + seconds * 1000 }

def expired (timer : Timer) (now : Nat) : Bool := timer.mExpires ≤ now

def remainingMillis (timer : Timer) (now : Nat) : Nat :=
  if timer.mExpires < now then 0 else timer.mExpires - now

end Timer

end RedroidExt.Dhcp
