import WorkspaceSession.Proofs.FileWriting
import WorkspaceSession.Proofs.Verdict

/-! The summary that a run writes. Where the workspace was loaded it says what the user saw, however
the run ended. Where it was not, no exporter is registered, and nothing is written. -/
namespace WorkspaceSession

namespace Registry

def jsonAlone : Registry := ⟨[Exporter.json], by decide⟩

theorem find_jsonAlone (target extension : String)
    (hextension : Path.extension? target = some extension)
    (json : sameExtension extension "json" = true) :
    jsonAlone.find target = .ok Exporter.json := by
  have hsame : sameExtension ".json" ("." ++ extension) = true := by
    unfold sameExtension at json ⊢
    simp only [decide_eq_true_eq] at json ⊢
    rw [String.toList_append, List.map_append, json]
    rfl
  have hfound : jsonAlone.findByExtension? target = some Exporter.json := by
    unfold findByExtension?
    rw [hextension]
    change List.find? (fun e => sameExtension e.extension ("." ++ extension)) [Exporter.json] = _
    rw [List.find?_singleton, Exporter.json, if_pos hsame]
  unfold find
  rw [hfound]
  cases hname : jsonAlone.exporters.find? (·.name = target) with
  | none => rfl
  | some e =>
    have hmem := List.mem_of_find?_eq_some hname
    rw [List.mem_singleton.mp hmem]
    rfl

theorem find_empty (target : String) : empty.find target = .error (.unknown target) := by
  unfold find findByExtension?
  cases Path.extension? target <;> rfl

end Registry

theorem SessionResult.get?_summary (r : SessionResult) (time : String) :
    (r.summary (some time)).get? "success" = some (.boolean (!r.hasError)) ∧
      (r.summary (some time)).get? "error" = r.error.map (fun e => .text e.message) ∧
      (r.summary (some time)).get? "warnings" = some (.texts r.warnings) ∧
      (r.summary (some time)).get? "messages" = some (.texts r.messages) := by
  unfold summary
  cases r.error <;>
    simp [Json.ofMembers, Json.get?, Entries.find?_insert, Entries.find?]

namespace Session

theorem init_exporters (s : Session) (invoker : Invoker) (options : ClientOptions) :
    (s.init invoker options).exporters = s.exporters := by
  obtain ⟨log, hinit⟩ := s.init_eq invoker options
  rw [hinit]
  rfl

theorem checkRequirements_exporters (s : Session) (plugins : Table String) :
    (s.checkRequirements plugins).exporters = s.exporters := by
  obtain ⟨log, error, hcheck⟩ := s.checkRequirements_eq plugins
  rw [hcheck]
  rfl

end Session

namespace Program

theorem initialised_exporters (m : Machine) (c : CommandLine) (w : Workspace) :
    (m.initialised c (loaded c w)).exporters = Registry.jsonAlone := by
  have hexporters (answers : (address : String) → Except HostError Unit) :
      (initialise c (services m.telemetryEnv answers) (loaded c w)).exporters =
        Registry.jsonAlone := by
    rw [initialise_eq, Session.checkRequirements_exporters, Session.init_exporters]
    rfl
  unfold Machine.initialised
  split <;> exact hexporters _

theorem timestamp_still (m : Machine) : Machine.host.timestamp m = (m.time, m) := rfl

theorem exportSummary_of_json {m : Machine} {s : Session} {destination : String}
    (found : s.exporters.find destination = .ok Exporter.json) {files : FileTree}
    (written : m.files.write m.current destination
      (s.result.summary (some m.time)).pretty.toUTF8 = .ok files) :
    exportSummary Machine.host s (some destination) m =
      (("📄 Summary written to " ++ destination ++ "\n", []), { m with files }) := by
  have hhost : Machine.host.write destination (s.result.summary (some m.time)).pretty m =
      (.ok (), { m with files }) := by
    change m.write destination _ = _
    unfold Machine.write
    rw [written]
  have hjson : Exporter.json.write Machine.host (s.result.summary (some m.time)) destination m =
      (.ok (), { m with files }) := Machine.bind_of_run hhost _
  have hwrite : s.exporters.write Machine.host (s.result.summary (some m.time)) destination m =
      (.ok Exporter.json, { m with files }) := by
    unfold Registry.write
    rw [found]
    exact Machine.bind_of_run hjson _
  unfold exportSummary
  dsimp only
  rw [Machine.bind_of_run (timestamp_still m), Machine.bind_of_run hwrite]
  rfl

theorem exportSummary_of_unknown {m : Machine} {s : Session} {destination : String}
    {e : ExportError} (missing : s.exporters.find destination = .error e) :
    ∃ log, exportSummary Machine.host s (some destination) m = (("", log), m) := by
  have hwrite : s.exporters.write Machine.host (s.result.summary (some m.time)) destination m =
      (.error ⟨e.message, []⟩, m) := by
    unfold Registry.write
    rw [missing]
    rfl
  unfold exportSummary
  dsimp only
  rw [Machine.bind_of_run (timestamp_still m), Machine.bind_of_run hwrite]
  exact ⟨_, rfl⟩

theorem conclude_output (s : Session) (written : String) (log : List LogLine) :
    (conclude s written log).output = s.result.display ++ written ++
      (if s.result.hasError then "" else "✅ Initialisation complete\n") := by
  simp only [conclude, Session.cleanup_result]
  rfl

section

variable {m : Machine} {c : CommandLine} {destination : String}

theorem run_of_no_workspace {cause : ErrorChain} (requested : c.destination = some destination)
    (missing : m.workspace c.workspace = .error cause) :
    ∃ log, run Machine.host c m = (conclude (unloaded cause) "" log, m) := by
  have hsession : m.session c = unloaded cause := by
    unfold Machine.session
    rw [missing]
  have hfind : (unloaded cause).exporters.find destination = .error (.unknown destination) :=
    Registry.find_empty destination
  obtain ⟨log, hexport⟩ := exportSummary_of_unknown (m := m) hfind
  refine ⟨log, ?_⟩
  rw [m.run_eq, requested, hsession, hexport]

theorem run_of_workspace {extension : String} {w : Workspace} {content : ByteArray}
    {files : FileTree} (requested : c.destination = some destination)
    (hextension : Path.extension? destination = some extension)
    (json : sameExtension extension "json" = true)
    (writable : m.files.write m.current destination content = .ok files)
    (found : m.workspace c.workspace = .ok w) :
    ∃ files, files.read m.current destination =
        .ok ((m.session c).result.summary (some m.time)).pretty.toUTF8 ∧
      run Machine.host c m = (conclude (m.session c)
        ("📄 Summary written to " ++ destination ++ "\n") [], { m with files }) := by
  have hexporters : (m.session c).exporters = Registry.jsonAlone := by
    unfold Machine.session
    rw [found]
    exact initialised_exporters m c w
  have hfind := Registry.find_jsonAlone destination extension hextension json
  rw [← hexporters] at hfind
  obtain ⟨place, -, hwrite⟩ := FileTree.exists_target_of_write writable
  have hwritten := hwrite ((m.session c).result.summary (some m.time)).pretty.toUTF8
  refine ⟨_, FileTree.read_of_write hwritten, ?_⟩
  rw [m.run_eq, requested, exportSummary_of_json hfind hwritten]

end

/-- Where the workspace was loaded, a run that is told to write its summary as JSON, and can, leaves
a summary that says whether it exits with zero, the failure shown, and the warnings and messages
shown, in their order. Where it was not, the machine stays as it is. -/
theorem start_summary (m : Machine) (args : List String) (c : CommandLine)
    (destination extension : String) (content : ByteArray) (files : FileTree)
    (accepted : CommandLine.parse args m.argumentVariables = .ok c)
    (requested : c.destination = some destination)
    (hextension : Path.extension? destination = some extension)
    (json : sameExtension extension "json" = true)
    (writable : m.files.write m.current destination content = .ok files) :
    ∃ report after, start Machine.host args m = (.ok report, after) ∧
      match m.workspace c.workspace with
      | .ok _ => ∃ (summary : Json) (warnings messages : List String),
          after.files.read after.current destination = .ok summary.pretty.toUTF8 ∧
          summary.get? "success" = some (.boolean (report.exitCode = 0)) ∧
          summary.get? "error" = report.failure.map .text ∧
          summary.get? "warnings" = some (.texts warnings) ∧
          summary.get? "messages" = some (.texts messages) ∧
          report.output = ({ warnings, messages } : SessionResult).display ++
            ("📄 Summary written to " ++ destination ++ "\n") ++
            (if report.exitCode = 0 then "✅ Initialisation complete\n" else "")
      | .error cause => after = m ∧ report.exitCode = 1 ∧
          report.failure = some (SessionError.workspace cause).message ∧ report.output = "" := by
  refine ⟨_, _, m.start_eq args c accepted, ?_⟩
  cases hworkspace : m.workspace c.workspace with
  | error cause =>
    obtain ⟨log, hrun⟩ := run_of_no_workspace requested hworkspace
    rw [hrun]
    exact ⟨rfl, conclude_exitCode _ _ _, conclude_failure _ _ _, conclude_output _ _ _⟩
  | ok w =>
    obtain ⟨files, hread, hrun⟩ := run_of_workspace requested hextension json writable hworkspace
    obtain ⟨hsuccess, herror, hwarnings, hmessages⟩ := (m.session c).result.get?_summary m.time
    rw [hrun]
    refine ⟨_, _, _, hread, ?_, ?_, hwarnings, hmessages, ?_⟩
    · rw [hsuccess, conclude_exitCode]
      cases (m.session c).result.hasError <;> rfl
    · rw [herror, conclude_failure, Option.map_map]
      rfl
    · rw [conclude_output, conclude_exitCode]
      cases (m.session c).result.hasError <;> rfl

theorem served_summary :
    ∃ report after, start Machine.host ["--workspace", ".", "--export", "out.JSON"] served =
        (.ok report, after) ∧
      ∃ summary : Json, after.files.read after.current "out.JSON" = .ok summary.pretty.toUTF8 ∧
        summary.get? "success" = some (.boolean (report.exitCode = 0)) ∧
        summary.get? "error" = report.failure.map .text := by
  obtain ⟨w, hworkspace, -⟩ := exists_workspace_served
  obtain ⟨report, after, hstart, hsummary⟩ := start_summary served
    ["--workspace", ".", "--export", "out.JSON"]
    { workspace := some ".", destination := some "out.JSON" } "out.JSON" "JSON" .empty _
    rfl rfl rfl rfl rfl
  dsimp only at hsummary
  rw [hworkspace] at hsummary
  obtain ⟨summary, _, _, hread, hsuccess, herror, -⟩ := hsummary
  exact ⟨report, after, hstart, summary, hread, hsuccess, herror⟩

/-- Without a workspace the summary is not written, though it can be. -/
theorem missing_workspace_unwritten :
    ∃ report after, start Machine.host ["--workspace", "missing", "--export", "out.json"] {} =
        (.ok report, after) ∧
      report.exitCode = 1 ∧
      (({} : FileTree).write [] "out.json" .empty).isOk = true ∧
      after.files.read after.current "out.json" = .error .notFound :=
  ⟨_, _, rfl, rfl, rfl, rfl⟩

end Program
end WorkspaceSession
