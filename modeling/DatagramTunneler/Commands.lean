import DatagramTunneler.CommandArguments
import DatagramTunneler.CommandLine
import DatagramTunneler.Control.ServeConnection
import DatagramTunneler.Foundation.Arguments
import DatagramTunneler.Producer

/-! The commands of the program, from the arguments up to what a command does last:
it starts a tunnel, a producer or the control server, changes the configuration file,
or prints. What is printed is given as the data it is printed from. The branches for
Windows (`APPDATA`, `notepad.exe`) are not part of it. -/

set_option autoImplicit false

namespace DatagramTunneler

open Foundation

/-- How the editor that was launched came back. -/
inductive EditorExit where
  | notForked
  | notWaited
  | exited (status : Nat)
  | signalled
  deriving DecidableEq, Repr

/-- What a command finds outside its arguments, on macOS or another POSIX system. -/
structure CommandEnvironment where
  /-- On macOS. -/
  apple : Bool
  getenv : Text → Option Text
  interfaces : List Interface
  /-- The files that can be opened. -/
  files : Text → Option Text
  /-- Paths with something at them. -/
  occupied : Text → Bool
  /-- What is thrown when the directories above a path are created, if anything is. -/
  create_directories : Text → Option Text
  can_create : Text → Bool
  editor : List Text → EditorExit

namespace CommandEnvironment

variable (environment : CommandEnvironment)

end CommandEnvironment

/-- What a command does last. -/
inductive Invocation where
  | version
  | path (config_path : Text)
  | created (config_path content : Text)
  | edited (created : Option Text) (command : List Text)
  | list (tunnels : List TunnelSummary)
  | show (tunnel : NamedTunnel)
  | validTunnel (tunnel : NamedTunnel)
  | validConfiguration (tunnels : Nat)
  /-- A tunnel is constructed and run; the context of the compact output, unless it is verbose. -/
  | tunnel (config : Config) (context : Option Text)
  | producer (config : Config) (options : ProducerOptions) (context : Option Text)
  | control (configuration_path : Text) (port : UInt16)
  deriving DecidableEq

section

variable (environment : CommandEnvironment) (argv : List Text)

end

end DatagramTunneler
