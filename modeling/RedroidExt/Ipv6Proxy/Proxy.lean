import RedroidExt.Ipv6Proxy.Packet

/-!
# The IPv6 proxy

`proxy.cpp`: rewriting link addresses, publishing DNS servers and forwarding. The
handlers return the message as they leave it and the calls they make, in order; no
answer to a call changes what follows. A loop over the options gets a bound on its
rounds, and a handler returns when some bound suffices.
-/

namespace RedroidExt.Ipv6Proxy

open RedroidExt.Library RedroidExt.Library.ByteMemory

set_option autoImplicit false

/-- The 16 bytes of an `in6_addr`. -/
abbrev In6Addr := List UInt8

abbrev kLinkAddressSize : Nat := 6

/-- What the proxy reads of an interface; `linkAddr` is the address that is copied. -/
structure Interface where
  name : String
  index : UInt32
  linkAddr : Fin kLinkAddressSize → UInt8

structure Proxy where
  mInnerIfs : List Interface
  mOuterIf : Interface

/-- A call that is made: `property_set`, the two ways to send on an interface's ICMPv6 socket, and
the two functions of `Router`. -/
inductive Call where
  | propertySet (name value : String)
  | sendFrom (toIf : Interface) (source destination : In6Addr) (data : List UInt8)
  | sendTo (toIf : Interface) (destination : In6Addr) (data : List UInt8)
  | addRoute (address : In6Addr) (prefixLength : UInt8) (interfaceIndex : UInt32)
  | setDefaultGateway (gateway : In6Addr) (interfaceIndex : UInt32)

def kNodePrefixLength : UInt8 := 128
def kRecursiveDnsOptHeaderSize : Nat := 8

abbrev ndOptSourceLinkaddr : UInt8 := 1
abbrev ndOptTargetLinkaddr : UInt8 := 2
abbrev ndOptRdnss : UInt8 := 25

/-! ## ForwardOpt -/

def kRewriteTargetLink : UInt32 := (1 : UInt32) <<< 0
def kRewriteSourceLink : UInt32 := (1 : UInt32) <<< 1
def kSpoofSource : UInt32 := (1 : UInt32) <<< 2
def kAddRoute : UInt32 := (1 : UInt32) <<< 3
def kSetDefaultGateway : UInt32 := (1 : UInt32) <<< 4

namespace Message

def ip6Src (message : Message) : In6Addr := load message.mData 8 16

def ip6Dst (message : Message) : In6Addr := load message.mData 24 16

/-- The bytes from `icmp()` on, `icmpSize()` of them. -/
def icmp (message : Message) : List UInt8 :=
  load message.mData ip6HdrSize (message.mSize - ip6HdrSize)

end Message

/-! ## The options -/

/-- The body of the loop in `rewriteLinkAddressOption`. -/
def rewriteOption (interface : Interface) (optionType : UInt8) (opt : Nat) (message : Message) :
    Message :=
  if message.ndOptType opt = optionType then
    { message with
      mData := store message.mData (opt + ndOptHdrSize) (List.ofFn interface.linkAddr) }
  else message

def rewriteLinkAddressOption (rounds : Nat) (packet : Packet) (message : Message)
    (interface : Interface) (optionType : UInt8) : Option Message :=
  packet.forEachOption id (rewriteOption interface optionType) rounds message

/-- The addresses of a recursive DNS server option as `inet_ntop` prints them. -/
def recursiveDnsServers (message : Message) (inetNtop : In6Addr → Option String) (opt : Nat) :
    List String :=
  (List.range (((message.ndOptLen opt).toNat - 1) / 2)).filterMap fun index =>
    inetNtop (load message.mData (opt + kRecursiveDnsOptHeaderSize + 16 * index) 16)

/-- The four properties: the first servers, and the empty string when there are no more. -/
def publish (servers : List String) : List Call :=
  [1, 2, 3, 4].map fun index =>
    .propertySet ("net.eth0.ipv6dns" ++ toString index) (servers.getD (index - 1) "")

/-- The body of the loop in `extractRecursiveDnsServers`. -/
def extractOption (message : Message) (inetNtop : In6Addr → Option String) (opt : Nat)
    (calls : List Call) : List Call :=
  if message.ndOptType opt ≠ ndOptRdnss ∨ message.ndOptLen opt < 1 then calls
  else calls ++ publish (recursiveDnsServers message inetNtop opt)

def extractRecursiveDnsServers (rounds : Nat) (packet : Packet) (message : Message)
    (inetNtop : In6Addr → Option String) : Option (List Call) :=
  packet.forEachOption (fun _ => message) (extractOption message inetNtop) rounds []

/-! ## Forwarding -/

/-- The calls of `forward` behind the rewriting. -/
def forwardCalls (source toIf : Interface) (packet : Packet) (message : Message)
    (options : UInt32) : List Call :=
  let sent :=
    if options &&& kSpoofSource ≠ 0 then
      Call.sendFrom toIf message.ip6Src message.ip6Dst message.icmp
    else .sendTo toIf message.ip6Dst message.icmp
  let route :=
    if options &&& kAddRoute ≠ 0 then
      [Call.addRoute message.ip6Src kNodePrefixLength source.index]
    else []
  let gateway :=
    if packet.mType = .routerAdvertisement ∧ options &&& kSetDefaultGateway ≠ 0 then
      [Call.setDefaultGateway message.ip6Src source.index]
    else []
  sent :: route ++ gateway

/-- One of the two rewritings at the head of `forward`. -/
def rewriteFor (flag : UInt32) (optionType : UInt8) (rounds : Nat) (toIf : Interface)
    (packet : Packet) (message : Message) (options : UInt32) : Option Message :=
  if options &&& flag ≠ 0 then rewriteLinkAddressOption rounds packet message toIf optionType
  else some message

def forward (rounds : Nat) (source toIf : Interface) (packet : Packet) (message : Message)
    (options : UInt32) : Option (Message × List Call) := do
  let message ← rewriteFor kRewriteTargetLink ndOptTargetLinkaddr rounds toIf packet message options
  let message ← rewriteFor kRewriteSourceLink ndOptSourceLinkaddr rounds toIf packet message options
  some (message, forwardCalls source toIf packet message options)

/-- The loop over the inner interfaces. -/
def forwardToAll (rounds : Nat) (source : Interface) (packet : Packet) (options : UInt32) :
    List Interface → Message × List Call → Option (Message × List Call)
  | [], done => some done
  | inner :: rest, done => do
      let forwarded ← forward rounds source inner packet done.1 options
      forwardToAll rounds source packet options rest (forwarded.1, done.2 ++ forwarded.2)

def handleOuterMessage (rounds : Nat) (proxy : Proxy) (message : Message)
    (inetNtop : In6Addr → Option String) : Option (Message × List Call) :=
  let packet := Packet.ofMessage message
  match packet.mType with
  | .routerAdvertisement => do
      let published ← extractRecursiveDnsServers rounds packet message inetNtop
      forwardToAll rounds proxy.mOuterIf packet (kRewriteSourceLink ||| kSetDefaultGateway)
        proxy.mInnerIfs (message, published)
  | .neighborSolicitation =>
      forwardToAll rounds proxy.mOuterIf packet kSpoofSource proxy.mInnerIfs (message, [])
  | .neighborAdvertisement =>
      forwardToAll rounds proxy.mOuterIf packet kRewriteTargetLink proxy.mInnerIfs (message, [])
  | .routerSolicitation => some (message, [])
  | .other => some (message, [])

def handleInnerMessage (rounds : Nat) (proxy : Proxy) (inner : Interface) (message : Message) :
    Option (Message × List Call) :=
  let packet := Packet.ofMessage message
  match packet.mType with
  | .routerSolicitation => forward rounds inner proxy.mOuterIf packet message kSpoofSource
  | .neighborSolicitation =>
      forward rounds inner proxy.mOuterIf packet message (kSpoofSource ||| kAddRoute)
  | .neighborAdvertisement =>
      forward rounds inner proxy.mOuterIf packet message
        (kRewriteTargetLink ||| kSpoofSource ||| kAddRoute)
  | .routerAdvertisement => some (message, [])
  | .other => some (message, [])

end RedroidExt.Ipv6Proxy
