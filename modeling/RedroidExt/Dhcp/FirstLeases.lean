import RedroidExt.Dhcp.DaemonRuns
import RedroidExt.Dhcp.Restarts

/-!
# From the first instructions to the leases

The clients and the server leave their startup in the states from which the runs of a
segment begin. Whether the clients can get leases is then up to the server's arguments.
-/

namespace RedroidExt.Dhcp

open RedroidExt.Library RedroidExt.Library.World RedroidExt.Library.ByteMemory RedroidExt.Netns

set_option autoImplicit false

/-! ## Both programs up to their loops -/

/-- The interface that the arguments of a client name, as `createRequest` copies it. -/
def clientInterface (argv : List CString) : CString :=
  match Daemon.parseClient argv.tail (none, 0) with
  | .ok (some interfaceName, _) => interfaceName.take 15
  | _ => []

/-- The index of the interface that the arguments of the server exclude, or zero. -/
def excludedInterface (names : InterfaceNames) (argv : List CString) : UInt32 :=
  ((excludedNames argv.tail).map names.indexOf).getLastD 0

/-- A client that has come to its loop, on a host of its own; `unset` and `behind` are what its
constructor leaves alone. -/
structure ClientBoot where
  names : InterfaceNames
  strerror : UInt32 → CString
  unsetInterface : Daemon.InterfaceObject
  argv : List CString
  kernel : DaemonKernel
  events : List (Program.Event DaemonCall DaemonCall.Answer)
  object : Daemon.ClientObject
  ran : Program.Runs (Daemon.clientMain strerror unsetInterface argv) events (.running object)
  allowed : (daemonWorld names).Allowed kernel events
  unset : DhcpClient
  behind : Memory
  clock : Nat

/-- A server that has come to its loop. -/
structure ServerBoot where
  names : InterfaceNames
  argv : List CString
  kernel : DaemonKernel
  events : List (Program.Event DaemonCall DaemonCall.Answer)
  object : Daemon.ServerObject
  ran : Program.Runs (Daemon.serverMain argv) events (.running object)
  allowed : (daemonWorld names).Allowed kernel events
  behind : Memory

namespace ClientBoot

variable (boot : ClientBoot)

def macAddress : MacAddress := boot.names.macOf (clientInterface boot.argv)

def host : Host := ((daemonWorld boot.names).after boot.kernel boot.events).host

def run : ClientRun := boot.object.firstRun boot.unset boot.behind boot.host boot.clock

theorem run_started :
    boot.run.Started ∧ boot.run.client.mInterface.mMacAddress = boot.macAddress := by
  have started := ensures_runs (ensures_client_main boot.strerror boot.unsetInterface boot.argv)
    boot.ran boot.allowed
  cases started with
  | running parsed mIndex mMacAddress opened host starts =>
      refine ⟨starts _ _ _, ?_⟩
      have interface : clientInterface boot.argv = boot.object.mInterface.ifrName := by
        unfold clientInterface
        rw [parsed]
        rfl
      unfold macAddress
      rw [interface]
      exact mMacAddress

end ClientBoot

namespace ServerBoot

variable (boot : ServerBoot)

def excluded : UInt32 := excludedInterface boot.names boot.argv

def run : ServerRun := .init boot.object.mExcludeInterface boot.behind

theorem run_exclude : boot.run.server.mExcludeInterface = boot.excluded := by
  have started := ensures_runs (ensures_server_main boot.argv) boot.ran boot.allowed
  cases started with
  | running excludes opened => exact excludes.last

end ServerBoot

section Booted

variable {ι : Type}

/-- Nothing was sent yet. -/
def bootedSegment (clients : ι → ClientBoot) (server : ServerBoot) : Segment ι where
  clients := fun who => (clients who).run
  server := server.run
  requests := []
  replies := []

theorem booted_segment_started (clients : ι → ClientBoot) (server : ServerBoot) :
    (bootedSegment clients server).Started fun who => (clients who).macAddress where
  clients := fun who => (clients who).run_started
  server := ⟨_, _, rfl⟩
  requests := rfl
  replies := rfl

end Booted

/-! ## An interface that the server excludes -/

namespace Segment

variable {ι : Type} {interfaceIndex : UInt32} {macs : ι → MacAddress}
variable {segment after : Segment ι}

/-- The server never answered, and no client came further than Selecting. -/
structure Unserved (interfaceIndex : UInt32) (segment : Segment ι) : Prop where
  excluded : segment.server.server.mExcludeInterface = interfaceIndex
  silent : segment.replies = []
  discovers : ∀ who, (segment.clients who).client.mState = .init ∨
    (segment.clients who).client.mState = .selecting
  address : ∀ who, (segment.clients who).client.host.address = 0

theorem unserved_started (started : segment.Started macs)
    (excluded : segment.server.server.mExcludeInterface = interfaceIndex) :
    segment.Unserved interfaceIndex where
  excluded := excluded
  silent := started.replies
  discovers := fun who => .inl (started.clients who).1.mState
  address := fun who => (started.clients who).1.address

theorem nothing_heard (unserved : segment.Unserved interfaceIndex) {who : ι}
    {input : ClientInput} (hears : segment.Hears who input) :
    (segment.clients who).received input = none := by
  cases got : (segment.clients who).received input with
  | none => rfl
  | some heard =>
      rcases hears heard.1 heard.2 got with ⟨reply, member, -⟩
      rw [unserved.silent] at member
      exact absurd member List.not_mem_nil

variable [DecidableEq ι]

theorem unserved_advance (before : segment.Unserved interfaceIndex) {who : ι}
    {input : ClientInput} (hears : segment.Hears who input) :
    (segment.advance who input).Unserved interfaceIndex := by
  have silent := nothing_heard before hears
  rcases ClientRun.discovers_silent (before.discovers who) silent with ⟨discovers, host⟩
  refine ⟨before.excluded, before.silent, ?_, ?_⟩
  · intro other
    by_cases same : other = who
    · subst same
      rw [advance_self]
      exact discovers
    · rw [advance_other _ same]
      exact before.discovers other
  · intro other
    by_cases same : other = who
    · subst same
      rw [advance_self, host]
      exact before.address other
    · rw [advance_other _ same]
      exact before.address other

theorem unserved_moved {label : SegmentLabel ι} (before : segment.Unserved interfaceIndex)
    (moved : Moved interfaceIndex segment label after) : after.Unserved interfaceIndex := by
  cases moved with
  | stays => exact before
  | advanced possible => exact unserved_advance before (input_hears possible)
  | elsewhere different =>
      exact ⟨(server_step_tables _ _).2.trans before.excluded, before.silent, before.discovers,
        before.address⟩
  | @served index answers request present =>
      have unserved : ¬ Served segment.server.server (segment.server.receive request.bytes)
          interfaceIndex := fun served => served.wanted before.excluded
      have dropped : handleMessage segment.server.server (segment.server.receive request.bytes)
          interfaceIndex answers = (none, segment.server.server) := handle_message_unserved unserved
      have nothing : (segment.serve interfaceIndex request answers).replies = segment.replies := by
        have unanswered : (serverStep segment.server
            (.datagram request.bytes interfaceIndex answers)).1 = none := congrArg Prod.fst dropped
        unfold serve
        dsimp only
        rw [unanswered]
        exact List.append_nil _
      exact ⟨(server_step_tables _ _).2.trans before.excluded, nothing.trans before.silent,
        before.discovers, before.address⟩

theorem unserved_takes {labels : List (SegmentLabel ι)} (before : segment.Unserved interfaceIndex)
    (path : (segmentSystem interfaceIndex macs).Takes segment labels after) :
    after.Unserved interfaceIndex := by
  refine TransitionSystem.takes_invariant (Unserved interfaceIndex) ?_ before path
  rintro state label later unserved rfl
  exact unserved_moved unserved (step_moved interfaceIndex state label)

end Segment

/-! ## Who gets a lease -/

section Leases

variable {ι : Type}

/-- Every client is Bound with the address that the server has for it, and no two alike. -/
structure Segment.AllHold (interfaceIndex : UInt32) (macs : ι → MacAddress)
    (segment : Segment ι) : Prop where
  holds : ∀ who, segment.HoldsOwn interfaceIndex macs who
  distinct : Function.Injective fun who => (segment.clients who).client.host.address

/-- However the programs come to their loops, and whatever the calls on the way answer: on an
interface that the server's arguments do not exclude, all clients can get leases of their own
within 24 steps for each of them, and on one that they exclude no client ever gets an address. -/
theorem leases_unless_excluded [DecidableEq ι] [Fintype ι] (interfaceIndex : UInt32)
    (known : interfaceIndex ≠ 0) (clients : ι → ClientBoot) (server : ServerBoot)
    (distinct : Function.Injective fun who => (clients who).macAddress)
    (config : InterfaceConfig) (answers : HostAnswers) (succeed : answers.Succeed)
    (reports : answers.Reports config) (hosts : ι → InAddr) (room : Segment.Room config hosts) :
    (server.excluded ≠ interfaceIndex →
      ∃ labels after, labels.length ≤ 24 * Fintype.card ι ∧
        (Segment.audibleSystem interfaceIndex fun who => (clients who).macAddress).Takes
          (bootedSegment clients server) labels after ∧
        after.AllHold interfaceIndex fun who => (clients who).macAddress) ∧
    (server.excluded = interfaceIndex →
      ∀ labels after,
        (segmentSystem interfaceIndex fun who => (clients who).macAddress).Takes
          (bootedSegment clients server) labels after →
        after.Unserved interfaceIndex) := by
  have started := booted_segment_started clients server
  constructor
  · intro included
    have wanted : (bootedSegment clients server).server.server.mExcludeInterface ≠
        interfaceIndex := by
      intro excluded
      exact included (server.run_exclude.symm.trans excluded)
    rcases Segment.takes_regained succeed reports room known Finset.univ.toList
      (Finset.nodup_toList _) (Segment.sound_started started) wanted
      (fun who _ => (started.clients who).1.isUp) with ⟨labels, after, few, path, regained, sound⟩
    rw [Finset.length_toList] at few
    have holds : ∀ who, after.HoldsOwn interfaceIndex (fun who => (clients who).macAddress) who :=
      fun who => regained.holds who (Finset.mem_toList.mpr (Finset.mem_univ who))
    refine ⟨labels, after, few, path, holds, ?_⟩
    intro first second same
    have lease : (after.clients first).client.host.address =
        (after.clients second).client.host.address := same
    rw [(holds first).address, (holds second).address] at lease
    exact distinct (client_of_lease sound.cursor (holds first).leased lease)
  · intro excluded labels after path
    exact Segment.unserved_takes
      (Segment.unserved_started started (server.run_exclude.trans excluded)) path

end Leases

/-! ## Two hosts -/

/-- Each host has a hardware address of its own. -/
def pairNames (second : Bool) : InterfaceNames where
  indexOf := homeNames.indexOf
  macOf := fun _ => Segment.pairMacs second

def pairAnswers (second : Bool) (kernel : DaemonKernel) : (call : DaemonCall) → call.Answer
  | .getHwaddr _ _ => .ok (Segment.pairMacs second)
  | call => obligingAnswers kernel call

theorem pair_answers_allowed (second : Bool) (kernel : DaemonKernel) (call : DaemonCall) :
    (daemonWorld (pairNames second)).allowed kernel call (pairAnswers second kernel call) := by
  cases call with
  | getHwaddr fd name => exact rfl
  | getIndex fd name => exact rfl
  | ifNametoindex name => exact rfl
  | socket domain type protocol =>
      exact lowest_socket_allowed (pairNames second) kernel domain type protocol
  | getFlags fd name => exact obliging_answers_allowed kernel (.getFlags fd name)
  | recv fd => exact acknowledgement_allowed (pairNames second) kernel fd
  | _ => trivial

theorem pair_clients_run (second : Bool) :
    ∃ events object,
      Program.Runs (Daemon.clientMain (fun _ => []) unsetInterface clientArguments) events
        (.running object) ∧
      (daemonWorld (pairNames second)).Allowed bootedKernel events ∧ object.mSocket = 3 := by
  apply follow_running (pair_answers_allowed second) Daemon.ClientObject.mSocket
  cases second with
  | _ => decide +kernel

/-- Two clients can get leases on the interface 1, and none on `eth0`, which is excluded. -/
theorem leases_unless_excluded_home :
    ∃ (clients : Bool → ClientBoot) (server : ServerBoot),
      (∃ labels after, labels.length ≤ 48 ∧
        (Segment.audibleSystem 1 fun who => (clients who).macAddress).Takes
          (bootedSegment clients server) labels after ∧
        after.AllHold 1 fun who => (clients who).macAddress) ∧
      ∀ labels after,
        (segmentSystem 3 fun who => (clients who).macAddress).Takes
          (bootedSegment clients server) labels after → after.Unserved 3 := by
  choose events objects ran allowed socket using pair_clients_run
  rcases follow_running obliging_answers_allowed _ server_excludes_home with
    ⟨serverEvents, serverObject, serverRan, serverAllowed, -⟩
  let clients : Bool → ClientBoot := fun second =>
    { names := pairNames second
      strerror := fun _ => []
      unsetInterface := unsetInterface
      argv := clientArguments
      kernel := bootedKernel
      events := events second
      object := objects second
      ran := ran second
      allowed := allowed second
      unset := (startedRun fun _ => 0).client
      behind := fun _ => 0
      clock := 0 }
  let server : ServerBoot :=
    { names := homeNames
      argv := serverArguments
      kernel := bootedKernel
      events := serverEvents
      object := serverObject
      ran := serverRan
      allowed := serverAllowed
      behind := fun _ => 0 }
  have excluded : server.excluded = 3 := by
    change excludedInterface homeNames serverArguments = 3
    decide +kernel
  have distinct : Function.Injective fun who => (clients who).macAddress :=
    Segment.pair_macs_distinct
  refine ⟨clients, server, ?_, ?_⟩
  · apply (leases_unless_excluded 1 (by decide) clients server distinct Segment.homeConfig
      homeAnswers home_answers_succeed Segment.home_answers_report Segment.pairHosts
      Segment.pair_hosts_room).1
    rw [excluded]
    decide
  · exact (leases_unless_excluded 3 (by decide) clients server distinct Segment.homeConfig
      homeAnswers home_answers_succeed Segment.home_answers_report Segment.pairHosts
      Segment.pair_hosts_room).2 excluded

end RedroidExt.Dhcp
