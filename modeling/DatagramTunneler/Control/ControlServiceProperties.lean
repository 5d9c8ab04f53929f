import DatagramTunneler.Control.ControlService

/-! When replacing the configuration is all or nothing. Two outcomes break it:
bytes that were buffered and are lost when the stream is closed, after the last
check, and a configuration file that was removed and then not replaced. -/

set_option autoImplicit false

namespace DatagramTunneler

open Foundation

namespace FileOutcomes

/-- The temporary file ends up in the place of the configuration file. -/
def Commits (windows : Bool) (outcomes : FileOutcomes) : Prop :=
  outcomes.opened ∧ outcomes.written ∧
    (outcomes.renamed ∨ (windows ∧ outcomes.removed ∧ outcomes.renamedAgain))

/-- The configuration file is removed and nothing takes its place. -/
def Discards (windows : Bool) (outcomes : FileOutcomes) : Prop :=
  outcomes.opened ∧ outcomes.written ∧ ¬ outcomes.renamed ∧ windows ∧ outcomes.removed ∧
    ¬ outcomes.renamedAgain

end FileOutcomes

namespace ControlService

variable {windows : Bool} {interfaces : List Interface} {service : ControlService} {toml : Text}
  {outcomes : FileOutcomes}

/-- A call that returns has put the text and its configuration in place, a call that
throws has left both as they were. -/
def AllOrNothing (interfaces : List Interface) (before : ControlService) (toml : Text)
    (call : ControlService × Except Text Unit) : Prop :=
  match call.2 with
  | .ok () =>
      call.1.file = some toml ∧ parseConfiguration interfaces toml = .ok call.1.configuration_
  | .error _ => call.1.file = before.file ∧ call.1.configuration_ = before.configuration_

/-- What the file system has to do for a replacement that gets as far as the files. -/
def FilesKept (windows : Bool) (interfaces : List Interface) (service : ControlService)
    (toml : Text) (outcomes : FileOutcomes) : Prop :=
  (parseConfiguration interfaces toml).isOk →
    (outcomes.Commits windows → toml.length ≤ outcomes.flushed) ∧
    (outcomes.Discards windows → service.file = none)

/-- The configuration in memory is the one on disk. -/
def Consistent (interfaces : List Interface) (service : ControlService) : Prop :=
  ∃ content, service.file = some content ∧
    parseConfiguration interfaces content = .ok service.configuration_

private theorem committed_allOrNothing {replacement : TunnelConfiguration} {before : ControlService}
    (parsed : parseConfiguration interfaces toml = .ok replacement)
    (temporary : service.temporary_file = some (toml.take outcomes.flushed)) :
    AllOrNothing interfaces before toml
        ({ service.rename with configuration_ := replacement }, .ok ()) ↔
      toml.length ≤ outcomes.flushed := by
  simp only [AllOrNothing, rename, temporary, Option.some.injEq, parsed, and_true]
  constructor
  · intro whole
    have length := congrArg List.length whole
    rw [List.length_take] at length
    omega
  · exact List.take_of_length_le

private theorem couldNotReplace_allOrNothing {before : ControlService}
    (configuration : service.configuration_ = before.configuration_) :
    AllOrNothing interfaces before toml (service.couldNotReplace outcomes) ↔
      service.file = before.file := by
  unfold couldNotReplace AllOrNothing
  cases outcomes.cleanupError <;> simp [configuration]

private theorem commit_allOrNothing_iff {replacement : TunnelConfiguration}
    (parsed : parseConfiguration interfaces toml = .ok replacement)
    (opened : outcomes.opened) (written : outcomes.written) :
    AllOrNothing interfaces service toml
        (commit windows { service with temporary_file := some (toml.take outcomes.flushed) }
          replacement outcomes) ↔
      (outcomes.Commits windows → toml.length ≤ outcomes.flushed) ∧
      (outcomes.Discards windows → service.file = none) := by
  unfold commit
  dsimp only
  split_ifs with renamed removed again
  · rw [committed_allOrNothing parsed rfl]
    simp [FileOutcomes.Commits, FileOutcomes.Discards, opened, written, renamed]
  · rw [committed_allOrNothing parsed rfl]
    rw [Bool.and_eq_true] at removed
    simp [FileOutcomes.Commits, FileOutcomes.Discards, opened, written, removed, again]
  · refine (couldNotReplace_allOrNothing ?_).trans ?_
    · rfl
    rw [Bool.and_eq_true] at removed
    simp [FileOutcomes.Commits, FileOutcomes.Discards, opened, written, renamed, removed, again,
      eq_comm]
  · refine (couldNotReplace_allOrNothing ?_).trans ?_
    · rfl
    rw [Bool.and_eq_true] at removed
    have unreplaced : ¬ outcomes.Commits windows := by
      intro held
      obtain ⟨-, -, first | ⟨second, third, -⟩⟩ := held
      · exact renamed first
      · exact removed ⟨second, third⟩
    have undiscarded : ¬ outcomes.Discards windows := fun discards =>
      removed ⟨discards.2.2.2.1, discards.2.2.2.2.1⟩
    simp [unreplaced, undiscarded]

theorem replaceConfiguration_allOrNothing_iff :
    AllOrNothing interfaces service toml
        (service.replaceConfiguration windows interfaces toml outcomes) ↔
      FilesKept windows interfaces service toml outcomes := by
  unfold replaceConfiguration FilesKept
  cases parsed : parseConfiguration interfaces toml with
  | error what => simp [AllOrNothing, Except.isOk, Except.toBool]
  | ok replacement =>
      dsimp only
      have accepted : (Except.ok replacement : Except Text TunnelConfiguration).isOk := rfl
      simp only [accepted, true_implies]
      split_ifs with opened written
      · simp [AllOrNothing, FileOutcomes.Commits, FileOutcomes.Discards, show ¬ outcomes.opened by simpa using opened]
      · simp [AllOrNothing, FileOutcomes.Commits, FileOutcomes.Discards, show ¬ outcomes.written by simpa using written]
      · exact commit_allOrNothing_iff parsed (by simpa using opened) (by simpa using written)

/-- A call that is all or nothing keeps memory and disk together. -/
theorem Consistent.replace (consistent : Consistent interfaces service)
    (kept : FilesKept windows interfaces service toml outcomes) :
    Consistent interfaces (service.replaceConfiguration windows interfaces toml outcomes).1 := by
  have done := replaceConfiguration_allOrNothing_iff.mpr kept
  unfold AllOrNothing at done
  split at done
  · exact ⟨toml, done⟩
  · obtain ⟨content, present, parsed⟩ := consistent
    exact ⟨content, done.1.trans present, by rw [done.2]; exact parsed⟩

private theorem consistent_of_construct {path : Text} {file temporary_file : Option Text}
    (constructed : construct interfaces path file temporary_file = .ok service) :
    Consistent interfaces service := by
  unfold construct loadConfiguration at constructed
  cases file with
  | none => cases constructed
  | some content =>
      cases parsed : parseConfiguration interfaces content with
      | error what => simp [parsed, bind, Except.bind] at constructed
      | ok configuration =>
          simp only [parsed, bind, Except.bind, pure, Except.pure, Except.ok.injEq] at constructed
          subst constructed
          exact ⟨content, rfl, parsed⟩

/-- A replacement is all or nothing exactly when the file system keeps the files;
and while it does, memory and disk agree from the constructor on. -/
theorem replaceConfiguration_allOrNothing (windows : Bool) (interfaces : List Interface) :
    (∀ service toml outcomes,
      AllOrNothing interfaces service toml
          (service.replaceConfiguration windows interfaces toml outcomes) ↔
        FilesKept windows interfaces service toml outcomes) ∧
    ∀ path file temporary_file service calls,
      construct interfaces path file temporary_file = .ok service →
      (configurationReplacements windows interfaces).Guarded
        (fun service (toml, outcomes) => FilesKept windows interfaces service toml outcomes)
        service calls →
      (configurationReplacements windows interfaces).Along (Consistent interfaces) service calls := by
  refine ⟨fun _ _ _ => replaceConfiguration_allOrNothing_iff, ?_⟩
  intro path file temporary_file service calls constructed kept
  refine Machine.along_of_guarded ?_ kept (consistent_of_construct constructed)
  intro service call next consistent allowed stepped
  obtain rfl := Option.some.inj stepped
  exact consistent.replace allowed

/-- A configuration with one client. -/
def clientToml (alias_ : String) : Text :=
  ["version=1", "[tunnels." ++ alias_ ++ "]", "mode=\"client\"", "udp_interface=\"127.0.0.1\"",
    "udp_group=\"239.1.2.3:5000\"", "tcp_server=\"127.0.0.1:1\""].flatMap fun line => ascii line ++ ascii "\n"

/-- One replacement whose file operations all succeed; one tunnel takes the place of another. -/
theorem replaceConfiguration_allOrNothing_sample : ∃ service,
    construct [] (ascii "config.toml") (some (clientToml "a")) none = .ok service ∧
    service.configuration_.tunnels.map (·.alias_) = [ascii "a"] ∧
    (configurationReplacements false []).Along (Consistent []) service
      [(clientToml "b", ⟨true, true, 200, true, false, false, none⟩)] := by
  have accepted : (construct [] (ascii "config.toml") (some (clientToml "a")) none).map
      (fun service => service.configuration_.tunnels.map (·.alias_)) = .ok [ascii "a"] := by decide
  cases constructed : construct [] (ascii "config.toml") (some (clientToml "a")) none with
  | error what =>
      rw [constructed] at accepted
      cases accepted
  | ok service =>
      rw [constructed] at accepted
      refine ⟨service, rfl, Except.ok.inj accepted, ?_⟩
      refine (replaceConfiguration_allOrNothing false []).2 (ascii "config.toml")
        (some (clientToml "a")) none _ _ constructed ?_
      refine (Machine.guarded_cons rfl).mpr ⟨?_, Machine.guarded_nil⟩
      intro _
      exact ⟨fun _ => by decide, fun discards => absurd rfl discards.2.2.1⟩

/-- A valid text of which nothing reaches the file when its stream is closed. -/
theorem replaceConfiguration_truncated : ¬ ∀ (windows : Bool) (interfaces : List Interface)
    (service : ControlService) (toml : Text) (outcomes : FileOutcomes),
    AllOrNothing interfaces service toml
      (service.replaceConfiguration windows interfaces toml outcomes) := by
  intro claimed
  let outcomes : FileOutcomes := {
    opened := true, written := true, flushed := 0, renamed := true, removed := true,
    renamedAgain := true, cleanupError := none }
  have kept := replaceConfiguration_allOrNothing_iff.mp
    (claimed false [] ⟨ascii "config.toml", ⟨[]⟩, some (ascii "version = 1"), none⟩
      (ascii "version = 1\n") outcomes)
  have accepted : (parseConfiguration [] (ascii "version = 1\n")).isOk = true := by decide
  have enough := (kept accepted).1 ⟨rfl, rfl, .inl rfl⟩
  exact absurd enough (by decide)

end ControlService

end DatagramTunneler
