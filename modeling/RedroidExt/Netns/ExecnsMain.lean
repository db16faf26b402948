import RedroidExt.Library.Loop
import RedroidExt.Library.Program
import RedroidExt.Netns.Execns
import Mathlib.Logic.Function.Basic

/-!
# Running a command in a namespace

`main` of `execns.cpp` with what it calls. What the system calls answer is left open:
the program is a tree with a branch for each answer.
-/

namespace RedroidExt.Netns

open RedroidExt.Library

set_option autoImplicit false

/-! ## System calls -/

/-- What `errno` holds behind a failed call. -/
structure Errno where
  number : Nat
  positive : 0 < number
  /-- `EHWPOISON` is the last one. -/
  known : number ≤ 133

/-- What `-u` and `-g` change. -/
inductive Identity where
  | user
  | group
  deriving DecidableEq

/-- The word for it in the messages. -/
def Identity.word : Identity → CString
  | user => ascii "user"
  | group => ascii "group"

/-- The option that asks for it. -/
def Identity.option : Identity → CString
  | user => ascii "-u"
  | group => ascii "-g"

/-- `CLONE_NEWNET`. -/
def cloneNewnet : UInt32 := 0x40000000

inductive SystemCall where
  /-- `isatty(STDOUT_FILENO)`. -/
  | isatty
  /-- `fopen`, with the calls that read the file and close it again. -/
  | fopen (path : CString)
  /-- `open` with `O_RDONLY | O_CLOEXEC`. -/
  | openReadOnly (path : CString)
  | setns (fd : Nat) (nstype : UInt32)
  | close (fd : Nat)
  /-- `getpwnam` or `getgrnam`. -/
  | getnam (identity : Identity) (name : CString)
  /-- `setuid` or `setgid`. -/
  | setid (identity : Identity) (id : UInt32)
  | execvp (file : CString) (arguments : List CString)
  | errno
  /-- A line for the terminal or for the log. -/
  | loge (isTerminal : Bool) (line : CString)

/-- Calls that return a number or a pointer answer whether they succeeded, with what the program
uses of the result. -/
abbrev SystemCall.Answer : SystemCall → Type
  | isatty => Bool
  | fopen _ => Option FileRead
  | openReadOnly _ => Option Nat
  | setns _ _ => Bool
  | close _ => Unit
  | getnam _ _ => Option UInt32
  | setid _ _ => Bool
  | execvp _ _ => Bool
  | errno => Errno
  | loge _ _ => Unit

abbrev ExecnsEvent := Program.Event SystemCall SystemCall.Answer

abbrev Execns := Program SystemCall SystemCall.Answer

namespace Execns

abbrev sys (call : SystemCall) : Execns call.Answer := Program.call call

/-- `LOGE`. -/
def loge (isTerminal : Bool) (line : CString) : Execns Unit := sys (.loge isTerminal line)

section Functions

variable (strerror : Errno → CString) (isTerminal : Bool)

/-! ## The network namespace -/

def readNamespacePid (ns : CString) : Execns CString := do
  let nsPath := namespacePidPath ns
  match ← sys (.fopen nsPath) with
  | none =>
      let error ← sys .errno
      loge isTerminal (ascii "Unable to open file " ++ nsPath ++ ascii " for namespace " ++ ns ++
        ascii ": " ++ strerror error)
      return []
  | some read =>
      let buffer := read.bytes.take pidBufferSize
      if buffer.length < pidBufferSize ∧ read.failed = false then
        let text := buffer.takeWhile (· ≠ 0)
        if isNumericString text then
          return text
        else
          loge isTerminal (ascii "File " ++ nsPath ++ ascii " does not contain a valid pid '" ++
            text ++ ascii "'")
          return []
      else if read.failed then
        let error ← sys .errno
        loge isTerminal (ascii "Error reading from file " ++ nsPath ++ ascii ": " ++ strerror error)
        return []
      else
        loge isTerminal (ascii "Invalid contents of pid file " ++ nsPath)
        return []

/-- The namespace file of a process, as far as `nsPath` has room for its path. -/
def netPath (pid : CString) : CString :=
  snprintf pathMax (ascii "/proc/" ++ pid ++ ascii "/ns/net")

def setNetworkNamespace (ns : CString) : Execns Bool := do
  let pid ← readNamespacePid strerror isTerminal ns
  if pid = [] then
    return false
  else
    let nsPath := netPath pid
    match ← sys (.openReadOnly nsPath) with
    | none =>
        let error ← sys .errno
        loge isTerminal (ascii "Cannot open network namespace '" ++ ns ++ ascii "' at '" ++ nsPath ++
          ascii "': " ++ strerror error)
        return false
    | some nsFd =>
        if ← sys (.setns nsFd cloneNewnet) then
          -- the destructor of `nsFd`
          sys (.close nsFd)
          return true
        else
          let error ← sys .errno
          loge isTerminal (ascii "Cannot set network namespace '" ++ ns ++ ascii "': " ++
            strerror error)
          sys (.close nsFd)
          return false

/-! ## User and group -/

/-- `changeUser` and `changeGroup` differ in their calls and in one word. -/
def changeIdentity (identity : Identity) (name : CString) : Execns Bool := do
  match ← sys (.getnam identity name) with
  | none =>
      loge isTerminal (ascii "Could not find " ++ identity.word ++ ascii " '" ++ name ++ ascii "'")
      return false
  | some id =>
      if ← sys (.setid identity id) then
        return true
      else
        let error ← sys .errno
        loge isTerminal (ascii "Cannot switch to " ++ identity.word ++ ascii " '" ++ name ++
          ascii "': " ++ strerror error)
        return false

def changeUser (user : CString) : Execns Bool := changeIdentity strerror isTerminal .user user

def changeGroup (group : CString) : Execns Bool := changeIdentity strerror isTerminal .group group

/-! ## The command -/

/-- The size of `buffer` in `execCommand`. -/
def messageSize : Nat := 4096

/-- What it returns, and the string in the buffer. -/
def sncatf (buffer : CString) (size : Nat) (text : CString) : Int × CString :=
  if buffer.length ≥ size then (-1, buffer)
  else (text.length, buffer ++ snprintf (size - buffer.length) text)

/-- An argument with a space is shown in quotes. -/
def appendArgument (buffer argument : CString) : CString :=
  if argument.contains 32 then
    (sncatf buffer messageSize (ascii " \"" ++ argument ++ ascii "\"")).2
  else (sncatf buffer messageSize (ascii " " ++ argument)).2

def execCommand : List CString → Execns Nat
  | [] => do
      loge isTerminal (ascii "No command specified")
      return 1
  | command :: options => do
      let arguments := command :: options
      if ← sys (.execvp command arguments) then
        -- never reached: the call only returns when it fails
        return 0
      else
        let error ← sys .errno
        let buffer := snprintf messageSize (ascii "Could not execute command '" ++ command)
        let buffer := options.foldl appendArgument buffer
        let buffer := (sncatf buffer messageSize (ascii "': " ++ strerror error)).2
        loge isTerminal buffer
        return error.number

/-! ## The whole program -/

def optionOf (argument : CString) : Option Identity :=
  if argument = ascii "-u" then some .user
  else if argument = ascii "-g" then some .group
  else none

/-- What `main` has parsed: `user` and `group` as far as they are given, and two indices, of which
one that is -1 in the source is `none`. -/
structure Parameters where
  given : Identity → Option CString
  nsArg : Option Nat
  execArg : Option Nat

structure OptionLoop where
  i : Nat
  given : Identity → Option CString

/-- How the loop is left: with an error at an option, or to go on. -/
inductive ParseEnd where
  | missing (identity : Identity)
  | parsed (parameters : Parameters)

def parseRound (argv : List CString) (loop : OptionLoop) : OptionLoop ⊕ ParseEnd :=
  if loop.i < argv.length then
    match optionOf (argv.getD loop.i []) with
    | some identity =>
        if (loop.given identity).isSome ∨ loop.i + 1 ≥ argv.length then .inr (.missing identity)
        else
          .inl { i := loop.i + 2
                 given := Function.update loop.given identity (some (argv.getD (loop.i + 1) [])) }
    | none =>
        .inr (.parsed
          { given := loop.given
            nsArg := some loop.i
            execArg := if loop.i + 1 < argv.length then some (loop.i + 1) else none })
  else .inr (.parsed { given := loop.given, nsArg := none, execArg := none })

def startParsing : OptionLoop := { i := 1, given := fun _ => none }

/-- The loop of `main`; it takes at most one round for each argument and one to end. -/
def parse (argv : List CString) : ParseEnd :=
  (Loop.run (parseRound argv) (argv.length + 1) startParsing).getD
    (.parsed { given := fun _ => none, nsArg := none, execArg := none })

/-- A null pointer is printed as well. -/
def printUsage (program : Option CString) : Execns Unit :=
  loge isTerminal (program.getD (ascii "(null)") ++
    ascii " [-u user] [-g group] <namespace> <program> [options...]")

/-- `!name || change(name)`. -/
def ifGiven (name : Option CString) (change : CString → Execns Bool) : Execns Bool :=
  match name with
  | none => return true
  | some name => change name

def main (argv : List CString) : Execns Nat := do
  let isTerminal ← sys .isatty
  match parse argv with
  | .missing identity =>
      loge isTerminal (ascii "Missing argument to option " ++ identity.option)
      return 1
  | .parsed parameters =>
      match parameters.nsArg, parameters.execArg with
      | some nsArg, some execArg =>
          if ← setNetworkNamespace strerror isTerminal (argv.getD nsArg []) then
            if ← ifGiven (parameters.given .group) (changeGroup strerror isTerminal) then
              if ← ifGiven (parameters.given .user) (changeUser strerror isTerminal) then
                execCommand strerror isTerminal (argv.drop execArg)
              else return 1
            else return 1
          else return 1
      | _, _ =>
          printUsage isTerminal argv.head?
          return 1

end Functions

end Execns

end RedroidExt.Netns
