import DatagramTunneler.Configuration
import DatagramTunneler.Foundation.Machine

/-! The service that owns the configuration, in memory and on disk. What the file
operations of a replacement do is not up to the program: each call comes with
their outcomes, and the bytes a stream has buffered may or may not reach the file
when the stream is closed. File contents are those the program's own text streams
show. -/

set_option autoImplicit false

namespace DatagramTunneler

open Foundation

structure ControlService where
  configuration_path_ : Text
  configuration_ : TunnelConfiguration
  /-- The file at `configuration_path_`, if there is one. -/
  file : Option Text
  /-- The file next to it that replacements are written to. -/
  temporary_file : Option Text
  deriving DecidableEq

def loadConfiguration (interfaces : List Interface) (path : Text) (file : Option Text) :
    Except Text TunnelConfiguration :=
  match file with
  | none => .error (ascii "could not open configuration file '" ++ path ++ ascii "'")
  | some content => parseConfiguration interfaces content

/-- What the file operations of one replacement do, each as far as it is reached. -/
structure FileOutcomes where
  opened : Bool
  written : Bool
  /-- How many of the bytes are in the temporary file once its stream is closed. -/
  flushed : Nat
  renamed : Bool
  removed : Bool
  renamedAgain : Bool
  /-- The `what()` of a failed removal of the temporary file. -/
  cleanupError : Option Text
  deriving DecidableEq, Repr

namespace ControlService

/-- The constructor. -/
def construct (interfaces : List Interface) (configuration_path : Text) (file temporary_file : Option Text) :
    Except Text ControlService := do
  let configuration ← loadConfiguration interfaces configuration_path file
  return ⟨configuration_path, configuration, file, temporary_file⟩

def tunnel (service : ControlService) (alias_ : Text) : Except Text NamedTunnel :=
  findTunnel service.configuration_ alias_

def validate (service : ControlService) (alias_ : Text) : Except Text Unit :=
  if alias_.isEmpty then .ok () else (service.tunnel alias_).map fun _ => ()

def temporary_path (service : ControlService) : Text := service.configuration_path_ ++ ascii ".tmp"

/-- Rename the temporary file over the configuration file. -/
def rename (service : ControlService) : ControlService :=
  { service with file := service.temporary_file, temporary_file := none }

def couldNotReplace (service : ControlService) (outcomes : FileOutcomes) :
    ControlService × Except Text Unit :=
  match outcomes.cleanupError with
  | some what => (service, .error what)
  | none =>
      ({ service with temporary_file := none },
        .error (ascii "could not replace configuration at " ++ service.configuration_path_))

/-- From the rename on; `windows` selects the second platform branch. -/
def commit (windows : Bool) (service : ControlService) (replacement : TunnelConfiguration)
    (outcomes : FileOutcomes) : ControlService × Except Text Unit :=
  if outcomes.renamed then ({ service.rename with configuration_ := replacement }, .ok ())
  else if windows && outcomes.removed then
    let service := { service with file := none }
    if outcomes.renamedAgain then ({ service.rename with configuration_ := replacement }, .ok ())
    else service.couldNotReplace outcomes
  else service.couldNotReplace outcomes

def replaceConfiguration (windows : Bool) (interfaces : List Interface) (service : ControlService)
    (toml : Text) (outcomes : FileOutcomes) : ControlService × Except Text Unit :=
  let couldNotWrite := ascii "could not write configuration at " ++ service.temporary_path
  match parseConfiguration interfaces toml with
  | .error what => (service, .error what)
  | .ok replacement =>
      if !outcomes.opened then (service, .error couldNotWrite)
      else
        let service := { service with temporary_file := some (toml.take outcomes.flushed) }
        if !outcomes.written then (service, .error couldNotWrite)
        else service.commit windows replacement outcomes

end ControlService

/-- One call of `replaceConfiguration` after another; `mutex_` keeps them apart. -/
def configurationReplacements (windows : Bool) (interfaces : List Interface) :
    Machine ControlService (Text × FileOutcomes) :=
  ⟨fun service (toml, outcomes) =>
    some (service.replaceConfiguration windows interfaces toml outcomes).1⟩

end DatagramTunneler
