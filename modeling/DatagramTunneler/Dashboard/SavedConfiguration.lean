import DatagramTunneler.Control.ControlServiceProperties
import DatagramTunneler.Control.HttpReplies
import DatagramTunneler.Dashboard.RequestRoutes

/-! The configuration as the dashboard saves and loads it. The text goes out in a JSON
body, is checked, written to a file and taken into memory, and comes back in another
JSON body; requests of every other kind go between. -/

set_option autoImplicit false

namespace DatagramTunneler

open Foundation Script

/-- What serving a request does to the service of the configuration, and what it throws. -/
def ControlService.serve (windows : Bool) (interfaces : List Interface) (service : ControlService)
    (request : Option HttpRequest) (outcomes : FileOutcomes) : ControlService × Except Text Unit :=
  match request with
  | none => (service, .error (ascii "could not parse HTTP request"))
  | some request =>
      match route request with
      | .error what => (service, .error what)
      | .ok (.updateConfig toml) => service.replaceConfiguration windows interfaces toml outcomes
      | .ok _ => (service, .ok ())

/-- A save as it arrives. -/
structure Save where
  toml : JsString
  transmission : (saveRequest toml).Transmission

/-- What is served on a connection: a save, or anything that is not routed to the
replacement of the configuration. -/
inductive Served where
  | save (save : Save)
  | other (request : Option HttpRequest)
      (reads : ∀ toml, request.map route ≠ some (.ok (.updateConfig toml)))

def Served.request : Served → Option HttpRequest
  | .save saved => saved.transmission.received
  | .other request _ => request

/-- One connection after another. A label tells what is served, what the file operations do
if it comes to them, and whether the answer is a success. -/
def servedConnections (windows : Bool) (interfaces : List Interface) :
    Machine ControlService (Served × FileOutcomes × Bool) :=
  ⟨fun service (served, outcomes, succeeded) =>
    let after := service.serve windows interfaces served.request outcomes
    if after.2.isOk = succeeded then some after.1 else none⟩

/-- The text of a save that was answered with a success. -/
def savedText : Served × FileOutcomes × Bool → Option Text
  | (.save saved, _, true) => some (utf8 saved.toml)
  | _ => none

/-- What the dashboard loads after these connections, if there was `initial` before. -/
def shownText (initial : Text) (labels : List (Served × FileOutcomes × Bool)) : Text :=
  (labels.filterMap savedText).getLast?.getD initial

/-! ## Routes of the configuration -/

private theorem stringify_toml (toml : JsString) :
    utf8 (stringify [(js "toml", .string toml)]) = configurationBody (utf8 toml) := by
  have opened : String.utf8EncodeChar '\x7b' = [byteOf '\x7b'] := by decide
  have closed : utf8 ['\x7d'] = [byteOf '\x7d'] := by decide
  have colon : String.utf8EncodeChar ':' = [byteOf ':'] := by decide
  have named : utf8 (JsValue.string (js "toml")).stringify = marker (ascii "toml") := by decide
  have front : ascii "\x7b\"toml\":\"" = byteOf '\x7b' :: (marker (ascii "toml") ++ [byteOf ':', byteOf '"']) := by
    decide
  have back : ascii "\"\x7d" = [byteOf '"', byteOf '\x7d'] := by decide
  have alone : ∀ text : JsString, (js ",").intercalate [text] = text := fun text => by simp [List.intercalate]
  rw [stringify, List.map_singleton, alone, configurationBody, front, back]
  simp only [utf8_cons, utf8_append, utf8_string, opened, closed, colon, named, List.append_assoc,
    List.cons_append, List.nil_append]

section

variable {request : HttpRequest}

private theorem path_of_config (target : request.target = kConfigPath) : request.path = kConfigPath := by
  rw [HttpRequest.path, target]
  decide

private theorem route_of_get (get : request.method = ascii "GET") (target : request.target = kConfigPath) :
    route request = .ok .config := by
  have others : kConfigPath ≠ ascii "/" ∧ kConfigPath ≠ ascii "/index.html" ∧
      kConfigPath ≠ ascii "/assets/styles.css" ∧ kConfigPath ≠ ascii "/assets/app.js" ∧
      kConfigPath ≠ kHealthPath ∧ kConfigPath ≠ kTunnelsPath ∧ kConfigPath ≠ kRuntimesPath := by decide
  unfold route
  simp only [get, path_of_config target, others, or_self, and_false, and_self, if_true, if_false]

private theorem route_of_put (put : request.method = ascii "PUT") (target : request.target = kConfigPath) :
    route request = match jsonStringProperty request.body (ascii "toml") with
      | none => .error (ascii "request must provide a JSON string property named 'toml'")
      | some toml => .ok (.updateConfig toml) := by
  have apart : ascii "PUT" ≠ ascii "GET" := by decide
  unfold route
  cases jsonStringProperty request.body (ascii "toml") <;>
    simp only [put, path_of_config target, apart, false_and, and_self, if_true, if_false]

end

/-- A save reaches the replacement with its text, unless a control character of it is written
by its code; then it is refused. -/
theorem Save.routed (save : Save) : save.transmission.received.map route =
    some (if (utf8 save.toml).any writtenByCode then
        .error (ascii "request must provide a JSON string property named 'toml'")
      else .ok (.updateConfig (utf8 save.toml))) := by
  have put : utf8 (js "PUT") = ascii "PUT" := by decide
  have target : utf8 (js "/api/v1" ++ js "/config") = kConfigPath := by decide
  have body : save.transmission.message.body = configurationBody (utf8 save.toml) :=
    save.transmission.body.trans (stringify_toml save.toml)
  have read : jsonStringProperty save.transmission.message.body (ascii "toml") =
      if (utf8 save.toml).any writtenByCode then none else some (utf8 save.toml) := by
    have closing : ascii "\"\x7d" = byteOf '"' :: ascii "\x7d" := by decide
    rw [body, jsonStringProperty, propertyValue_configurationBody, closing]
    exact readString_jsonEscape (utf8 save.toml) (ascii "\x7d")
  rw [save.transmission.received_eq, Option.map_some]
  refine congrArg some ((route_of_put put target).trans ?_)
  have same : (requestOf save.transmission.message (utf8 (saveRequest save.toml).method)
      (utf8 (saveRequest save.toml).target)).body = save.transmission.message.body := rfl
  rw [same, read]
  split_ifs <;> rfl

/-! ## Runs -/

section

variable {windows : Bool} {interfaces : List Interface}

/-- The text is on disk, and what it says is in force. -/
structure InForce (interfaces : List Interface) (service : ControlService) (text : Text) : Prop where
  file : service.file = some text
  configuration : parseConfiguration interfaces text = .ok service.configuration_

/-- The file system keeps what a save that is received has it write. -/
def KeepsFiles (windows : Bool) (interfaces : List Interface) (service : ControlService)
    (label : Served × FileOutcomes × Bool) : Prop :=
  ∀ save, label.1 = .save save →
    ControlService.FilesKept windows interfaces service (utf8 save.toml) label.2.1

private theorem serve_save (service : ControlService) (save : Save) (outcomes : FileOutcomes) :
    service.serve windows interfaces save.transmission.received outcomes =
      if (utf8 save.toml).any writtenByCode then
        (service, .error (ascii "request must provide a JSON string property named 'toml'"))
      else service.replaceConfiguration windows interfaces (utf8 save.toml) outcomes := by
  have routed := save.routed
  cases received : save.transmission.received with
  | none =>
      rw [received] at routed
      cases routed
  | some request =>
      rw [received, Option.map_some, Option.some.injEq] at routed
      simp only [ControlService.serve, routed]
      split_ifs <;> rfl

private theorem serve_other (service : ControlService) {request : Option HttpRequest}
    (reads : ∀ toml, request.map route ≠ some (.ok (.updateConfig toml))) (outcomes : FileOutcomes) :
    (service.serve windows interfaces request outcomes).1 = service := by
  cases request with
  | none => rfl
  | some request =>
      cases routed : route request with
      | error what => simp only [ControlService.serve, routed]
      | ok branch =>
          cases branch with
          | updateConfig toml => exact absurd (by rw [Option.map_some, routed]) (reads toml)
          | _ => simp only [ControlService.serve, routed]

/-- One connection changes what is in force only by a save that succeeds. -/
theorem InForce.step {service next : ControlService} {text : Text} {label : Served × FileOutcomes × Bool}
    (inForce : InForce interfaces service text) (kept : KeepsFiles windows interfaces service label)
    (stepped : (servedConnections windows interfaces).step service label = some next) :
    InForce interfaces next ((savedText label).getD text) := by
  obtain ⟨served, outcomes, succeeded⟩ := label
  dsimp only [servedConnections] at stepped
  split_ifs at stepped with answered
  cases stepped
  cases served with
  | other request reads =>
      rw [Served.request, serve_other service reads]
      exact inForce
  | save save =>
      have done := ControlService.replaceConfiguration_allOrNothing_iff.mpr (kept save rfl)
      rw [Served.request, serve_save] at answered ⊢
      split_ifs at answered ⊢ with coded
      · cases answered
        exact inForce
      · unfold ControlService.AllOrNothing at done
        cases ended : (service.replaceConfiguration windows interfaces (utf8 save.toml) outcomes).2 with
        | error what =>
            rw [ended] at answered done
            cases answered
            exact ⟨done.1.trans inForce.file, done.2 ▸ inForce.configuration⟩
        | ok done_ =>
            rw [ended] at answered done
            cases answered
            exact ⟨done.1, done.2⟩

private theorem shownText_cons (initial : Text) (label : Served × FileOutcomes × Bool)
    (labels : List (Served × FileOutcomes × Bool)) :
    shownText initial (label :: labels) = shownText ((savedText label).getD initial) labels := by
  rw [shownText, shownText, List.filterMap_cons]
  cases savedText label with
  | none => rfl
  | some text => rw [List.getLast?_cons, Option.getD_some, Option.getD_some]

private theorem inForce_of_exec {service final : ControlService} {initial : Text}
    {labels : List (Served × FileOutcomes × Bool)} (inForce : InForce interfaces service initial)
    (kept : (servedConnections windows interfaces).Guarded (KeepsFiles windows interfaces) service labels)
    (ran : (servedConnections windows interfaces).exec service labels = some final) :
    InForce interfaces final (shownText initial labels) := by
  induction labels generalizing service initial with
  | nil =>
      cases ran
      exact inForce
  | cons label labels ih =>
      obtain ⟨next, stepped, ran⟩ := (Machine.exec_cons_iff _).mp ran
      obtain ⟨here, later⟩ := (Machine.guarded_cons stepped).mp kept
      rw [shownText_cons]
      exact ih (inForce.step here stepped) later ran

/-- After any run of connections the dashboard loads the text of the last save that was answered
with a success, byte for byte, and it is the text whose tunnels are in force. -/
theorem dashboard_loads_saved {configuration_path initial : Text} {temporary_file : Option Text}
    {service final : ControlService} {labels : List (Served × FileOutcomes × Bool)}
    (constructed : ControlService.construct interfaces configuration_path (some initial) temporary_file =
      .ok service)
    (kept : (servedConnections windows interfaces).Guarded (KeepsFiles windows interfaces) service labels)
    (ran : (servedConnections windows interfaces).exec service labels = some final)
    (load : DashboardRequest.Transmission { path := js "/config" }) :
    parseConfiguration interfaces (shownText initial labels) = .ok final.configuration_ ∧
      ∀ assets rendering snapshots, ∃ text,
        serveConnection assets rendering final snapshots load.received (.ok ()) = some text ∧
          Sends text ⟨200, .json (.object [(ascii "toml", .string (shownText initial labels))])⟩ := by
  have start : InForce interfaces service initial := by
    unfold ControlService.construct loadConfiguration at constructed
    obtain ⟨configuration, parsed, made⟩ := except_bind_eq_ok.mp constructed
    cases made
    exact ⟨rfl, parsed⟩
  have inForce := inForce_of_exec start kept ran
  have get : utf8 (js "GET") = ascii "GET" := by decide
  have target : utf8 (js "/api/v1" ++ js "/config") = kConfigPath := by decide
  have routed : route (requestOf load.message (utf8 (js "GET")) (utf8 (js "/api/v1" ++ js "/config"))) =
      .ok .config := route_of_get get target
  refine ⟨inForce.configuration, fun assets rendering snapshots =>
    ⟨jsonResponse 200 (configurationBody (shownText initial labels)), ?_,
      sends_jsonResponse (by decide) (read_configurationBody _)⟩⟩
  rw [load.received_eq]
  simp only [serveConnection, DashboardRequest.target, routed, Route.respond,
    ControlService.configurationToml, inForce.file, Option.map_some, Except.map]

end

/-- A save of a configuration with one tunnel, as the script sends it. -/
def clientBody : Text := configurationBody (ControlService.clientToml "b")

def plainMessage : HttpMessage where
  line := ascii "PUT /api/v1/config HTTP/1.1"
  fields := [⟨ascii "Content-Type", ascii "application/json"⟩, ⟨ascii "Content-Length", ascii "139"⟩]
  body := clientBody

def plainSave : Save where
  toml := (ControlService.clientToml "b").map fun byte => Char.ofNat byte.toNat
  transmission := {
    message := plainMessage
    requests := ⟨by decide +kernel, by decide +kernel, by decide +kernel, by decide +kernel,
      .inr (by decide +kernel)⟩
    headers := by decide +kernel
    body := by decide
    bytes := plainMessage.text
    spelled := plainMessage.spells_text
    small := by decide +kernel
    smallBody := by decide +kernel
    segmentation := ⟨[plainMessage.text], by simp, by decide +kernel⟩ }

def loadMessage : HttpMessage where
  line := ascii "GET /api/v1/config HTTP/1.1"
  fields := [⟨ascii "Host", ascii "127.0.0.1:8765"⟩]
  body := []

def configLoad : DashboardRequest.Transmission { path := js "/config" } where
  message := loadMessage
  requests := ⟨by decide +kernel, by decide +kernel, by decide +kernel, by decide +kernel,
    .inl (by decide +kernel)⟩
  headers := by decide
  body := rfl
  bytes := loadMessage.text
  spelled := loadMessage.spells_text
  small := by decide
  smallBody := by decide
  segmentation := ⟨[loadMessage.text], by simp, by decide⟩

/-- A connection on which no request can be read. -/
def unreadable : Served × FileOutcomes × Bool :=
  (.other none (by simp), ⟨true, true, 0, true, false, false, none⟩, false)

def wholeFile : FileOutcomes := ⟨true, true, 200, true, false, false, none⟩

def unopenedFile : FileOutcomes := ⟨false, false, 0, false, false, false, none⟩

/-- The second time the file cannot be opened. -/
def savedTwice (save : Save) : List (Served × FileOutcomes × Bool) :=
  [(.save save, wholeFile, true), unreadable, (.save save, unopenedFile, false)]

/-- The service when its file holds one client. -/
def serviceOf (alias_ : String) : ControlService where
  configuration_path_ := ascii "config.toml"
  configuration_ :=
    match parseConfiguration [] (ControlService.clientToml alias_) with
    | .ok configuration => configuration
    | .error _ => ⟨[]⟩
  file := some (ControlService.clientToml alias_)
  temporary_file := none

private theorem savedTwice_guarded {save : Save} (long : (utf8 save.toml).length ≤ 200) (service : ControlService) :
    (servedConnections false []).Guarded (KeepsFiles false []) service (savedTwice save) := by
  have saved : ∀ {service : ControlService} {outcomes : FileOutcomes} {succeeded : Bool},
      (outcomes.opened → 200 ≤ outcomes.flushed) →
        KeepsFiles false [] service (.save save, outcomes, succeeded) := by
    intro service outcomes succeeded flushed save same
    cases same
    exact fun _ => ⟨fun commits => Nat.le_trans long (flushed commits.1),
      fun discards => absurd discards.2.2.2.1 (by decide)⟩
  intro passed label within reached ran
  have inside : label ∈ savedTwice save := within.subset (List.mem_append_right _ (List.mem_singleton.mpr rfl))
  simp only [savedTwice, List.mem_cons, List.not_mem_nil, or_false] at inside
  rcases inside with rfl | rfl | rfl
  · exact saved fun _ => Nat.le_refl 200
  · intro other same
    exact Served.noConfusion same
  · exact saved fun opened => Bool.noConfusion opened

private theorem plainSave_steps :
    (servedConnections false []).exec (serviceOf "a") (savedTwice plainSave) = some (serviceOf "b") := by
  decide +kernel

/-- What is loaded behind the run is the configuration of the save, whose tunnel is in force. -/
theorem dashboard_loads_saved_plain : ∃ final : ControlService,
    parseConfiguration [] (ControlService.clientToml "b") = .ok final.configuration_ ∧
      final.configuration_.tunnels.map (·.alias_) = [ascii "b"] ∧
      ∀ assets rendering snapshots, ∃ text,
        serveConnection assets rendering final snapshots configLoad.received (.ok ()) = some text ∧
          Sends text ⟨200, .json (.object [(ascii "toml", .string (ControlService.clientToml "b"))])⟩ := by
  have constructed : ControlService.construct [] (ascii "config.toml") (some (ControlService.clientToml "a"))
      none = .ok (serviceOf "a") := by decide +kernel
  have long : (utf8 plainSave.toml).length ≤ 200 := by decide +kernel
  have shown : shownText (ControlService.clientToml "a") (savedTwice plainSave) =
      ControlService.clientToml "b" := by decide
  obtain ⟨parsed, loads⟩ :=
    dashboard_loads_saved constructed (savedTwice_guarded long _) plainSave_steps configLoad
  rw [shown] at parsed loads
  exact ⟨_, parsed, by decide, loads⟩

end DatagramTunneler
