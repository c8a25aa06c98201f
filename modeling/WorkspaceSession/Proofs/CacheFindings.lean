import WorkspaceSession.Proofs.InitTexts
import WorkspaceSession.Proofs.SettingReading

/-! What the check of the cache settings finds, and what comes of it in a session. A time to live
that is set and reads as nothing positive is fatal; the warnings are given next to it all the
same. -/
namespace WorkspaceSession

/-- A positive integer of 64 bits, or a text that spells one. -/
def Setting.Positive : Setting → Prop
  | .integer n => 0 < n
  | .boolean _ => False
  | .text s => ∃ n : Int64, 0 < n ∧ Text.Spells s n.toInt

theorem Setting.positive_iff (value : Setting) : value.Positive ↔ 0 < value.asInt := by
  cases value with
  | integer n => rfl
  | boolean b => simp [Positive, asInt]
  | text s =>
    constructor
    · rintro ⟨n, hpos, spells⟩
      rwa [asInt_of_spells spells]
    · intro hpos
      by_cases hspelt : ∃ n : Int64, Text.Spells s n.toInt
      · obtain ⟨n, spells⟩ := hspelt
        rw [asInt_of_spells spells] at hpos
        exact ⟨n, hpos, spells⟩
      · have hzero := asInt_of_not_spells fun n spells => hspelt ⟨n, spells⟩
        rw [hzero] at hpos
        exact absurd hpos (by decide)

def cacheOff : String := "Caching is disabled on the server."

def ServerSettings.lowerTtl (server : ServerSettings) (ttl : Int64) : String :=
  "The server cache ttl (" ++ (toString server.cacheMaxTtl ++ "s") ++
    ") is lower than the client cache ttl (" ++ (toString ttl ++ "s") ++
    "). Cached results will be refreshed after " ++ (toString server.cacheMaxTtl ++ "s") ++ "."

theorem ServerSettings.lowerTtl_ne_cacheOff (server : ServerSettings) (ttl : Int64) :
    server.lowerTtl ttl ≠ cacheOff := by
  intro heq
  have hoff : cacheOff.toList.head? = some 'C' := rfl
  have hlower : "The server cache ttl (".toList.head? = some 'T' := rfl
  unfold lowerTtl at heq
  rw [String.append_assoc, String.append_assoc, String.append_assoc, String.append_assoc,
    String.append_assoc] at heq
  have hhead := congrArg (fun text : String => text.toList.head?) heq
  rw [String.toList_append, List.head?_append, hlower, hoff] at hhead
  exact absurd (Option.some.inj hhead) (by decide)

theorem seconds_eq (i : Int64) : seconds i = toString i ++ "s" := by
  rw [seconds, Text.int64Text_eq]

namespace Settings

theorem isSet_of_getBool {s : Settings} {key : String} (h : s.getBool key = true) :
    s.isSet key = true := by
  unfold getBool at h
  unfold isSet Table.contains
  cases hvalue : s.values.get? key with
  | none => simp [hvalue] at h
  | some value => rfl

theorem getInt_of_isSet_eq_false {s : Settings} {key : String} (h : s.isSet key = false) :
    s.getInt key = 0 := by
  unfold isSet Table.contains at h
  unfold getInt
  rw [Option.isSome_eq_false_iff, Option.isNone_iff_eq_none] at h
  rw [h]
  rfl

theorem isSet_and_getInt_le_iff {s : Settings} {key : String} :
    (s.isSet key = true ∧ s.getInt key ≤ 0) ↔
      ∃ value, s.values.get? key = some value ∧ ¬ value.Positive := by
  unfold isSet Table.contains getInt
  cases s.values.get? key with
  | none => simp
  | some value => simp [value.positive_iff]

end Settings

namespace ServerSettings

section

variable (server : ServerSettings) (settings : Settings)

theorem cacheWarnings_eq : server.cacheWarnings settings =
    if settings.getBool Settings.clientCacheEnabled && !server.cacheEnabled then [cacheOff]
    else [] := by
  unfold cacheWarnings
  cases hbool : settings.getBool Settings.clientCacheEnabled with
  | false => simp
  | true => simp [Settings.isSet_of_getBool hbool, cacheOff]

theorem ttlFindings_eq : server.ttlFindings settings =
    { error :=
        if settings.isSet Settings.cacheTtl = true ∧ settings.getInt Settings.cacheTtl ≤ 0 then
          some (.cacheSettings ("cache ttl must be greater than zero, got " ++
            toString (settings.getInt Settings.cacheTtl)))
        else none
      warnings :=
        if 0 < settings.getInt Settings.cacheTtl ∧
            server.cacheMaxTtl < settings.getInt Settings.cacheTtl then
          [server.lowerTtl (settings.getInt Settings.cacheTtl)]
        else [] } := by
  unfold ttlFindings
  cases hset : settings.isSet Settings.cacheTtl with
  | false => simp [Settings.getInt_of_isSet_eq_false hset]
  | true =>
    by_cases hle : settings.getInt Settings.cacheTtl ≤ 0
    · have hpos : ¬ 0 < settings.getInt Settings.cacheTtl := Int64.not_lt.mpr hle
      simp only [hle, hpos, ↓reduceIte, and_self, false_and, Findings.ofError, Text.int64Text_eq]
    · have hpos : 0 < settings.getInt Settings.cacheTtl := Int64.not_le.mp hle
      simp only [hle, hpos, ↓reduceIte, and_false, true_and, gt_iff_lt, seconds_eq]
      split <;> rfl

theorem check_error :
    (server.check settings).error =
      if settings.isSet Settings.cacheTtl = true ∧ settings.getInt Settings.cacheTtl ≤ 0 then
        some (.cacheSettings ("cache ttl must be greater than zero, got " ++
          toString (settings.getInt Settings.cacheTtl)))
      else none := by
  unfold check Findings.merge
  rw [Option.none_or, ttlFindings_eq]

theorem check_warnings :
    (server.check settings).warnings =
      (if settings.getBool Settings.clientCacheEnabled && !server.cacheEnabled then [cacheOff]
        else []) ++
      if 0 < settings.getInt Settings.cacheTtl ∧
          server.cacheMaxTtl < settings.getInt Settings.cacheTtl then
        [server.lowerTtl (settings.getInt Settings.cacheTtl)]
      else [] := by
  unfold check Findings.merge
  rw [cacheWarnings_eq, ttlFindings_eq]

theorem check_error_ne_none_iff :
    (server.check settings).error ≠ none ↔
      ∃ value, settings.values.get? Settings.cacheTtl = some value ∧ ¬ value.Positive := by
  rw [check_error, ← Settings.isSet_and_getInt_le_iff]
  split
  · next h => simp [h]
  · next h => simp [h]

theorem check_error_eq_none_iff :
    (server.check settings).error = none ↔
      ∀ value, settings.values.get? Settings.cacheTtl = some value → value.Positive := by
  rw [← Classical.not_not (a := _ = none), ← ne_eq, check_error_ne_none_iff]
  simp

end

end ServerSettings

namespace Session

section

variable (s : Session) (invoker : Invoker) (options : ClientOptions) {spec : ClientSpec}
  (given : spec ∈ (s.replies (s.calls options)).clients) {server : ServerSettings}
  (htold : (spec.serverSettings (s.checkMoment (s.calls options))).outcome = .ok (some server))

include given htold

theorem ending_of_given :
    (s.replies (s.calls options)).clients = [spec] ∧
      (Answer.firstHalt (s.answers options)).map Halt.toError =
        (server.check s.settings).error := by
  rw [← answered_made] at given ⊢
  cases s.ending options with
  | connected only made unhalted found =>
    rw [made, List.mem_singleton] at given
    subst given
    refine ⟨made, ?_⟩
    rw [firstHalt_of_found found unhalted]
    simp only [Client.checked, htold, Option.map_some, Option.getD_some, Option.map_map]
    exact Option.map_id'
  | halted halt made clientless firstHalt client warnings =>
    rw [made] at given
    contradiction

theorem init_error_of_given :
    (s.init invoker options).result.error =
      (server.check s.settings).error.or (s.result.error.or
        (if (s.init invoker options).cancelled then some .cancelled else none)) := by
  obtain ⟨log, hinit⟩ := s.init_eq invoker options
  rw [hinit, ← (s.ending_of_given options given htold).2]
  rfl

theorem init_warnings_of_given :
    (s.init invoker options).result.warnings = s.result.warnings ++
      ((s.replies (s.calls options)).startFaults.map ErrorChain.outermost ++
        (s.replies (s.calls options)).reports.flatMap InstallReport.failures ++
        (server.check s.settings).warnings) := by
  rw [init_warnings, answers_warnings, (s.ending_of_given options given htold).1,
    List.flatMap_singleton, ClientSpec.cacheWarnings, htold]

end

end Session

/-- The check is fatal exactly where the time to live is set and is no positive integer of 64 bits.
It warns first of a cache that the server does not have, next to the error too, and then of a time
to live that is positive and longer than the server's. An initialisation that is given a client of
such a server appends these warnings, fatal or not, and takes over the error; where there was none
before, it ends well or cancelled exactly where the time to live is unset or positive. -/
theorem ServerSettings.findings_reach_result (server : ServerSettings) :
    (∀ settings : Settings,
      ((server.check settings).error ≠ none ↔
        ∃ value, settings.values.get? Settings.cacheTtl = some value ∧ ¬ value.Positive) ∧
      ((server.check settings).error ≠ none →
        (server.check settings).error =
          some (.cacheSettings ("cache ttl must be greater than zero, got " ++
            toString (settings.getInt Settings.cacheTtl))) ∧
        ∀ ttl, server.lowerTtl ttl ∉ (server.check settings).warnings) ∧
      (server.check settings).warnings =
        (if settings.getBool Settings.clientCacheEnabled && !server.cacheEnabled then [cacheOff]
          else []) ++
        if 0 < settings.getInt Settings.cacheTtl ∧
            server.cacheMaxTtl < settings.getInt Settings.cacheTtl then
          [server.lowerTtl (settings.getInt Settings.cacheTtl)]
        else []) ∧
    ∀ (s : Session) (invoker : Invoker) (options : ClientOptions), ∃ calls,
      (s.init invoker options).trace = s.trace ++ calls ++ s.relayed calls ∧
      ∀ spec ∈ (s.replies calls).clients,
        (spec.serverSettings (s.checkMoment calls)).outcome = .ok (some server) →
        (s.init invoker options).result.warnings = s.result.warnings ++
          ((s.replies calls).startFaults.map ErrorChain.outermost ++
            (s.replies calls).reports.flatMap InstallReport.failures ++
            (server.check s.settings).warnings) ∧
        (s.init invoker options).result.error =
          (server.check s.settings).error.or (s.result.error.or
            (if (s.init invoker options).cancelled then some .cancelled else none)) ∧
        (s.result.error = none →
          ((s.init invoker options).result.error = none ∨
              (s.init invoker options).result.error = some .cancelled ↔
            ∀ value, s.settings.values.get? Settings.cacheTtl = some value → value.Positive)) := by
  constructor
  · intro settings
    refine ⟨server.check_error_ne_none_iff settings, ?_, server.check_warnings settings⟩
    intro hfatal
    rw [check_error] at hfatal ⊢
    rw [check_warnings]
    split at hfatal
    · next hrefused =>
      refine ⟨if_pos hrefused, ?_⟩
      have hpos : ¬ 0 < settings.getInt Settings.cacheTtl := Int64.not_lt.mpr hrefused.2
      intro ttl
      simp only [hpos, false_and, ↓reduceIte, List.append_nil]
      split
      · simpa using server.lowerTtl_ne_cacheOff ttl
      · exact List.not_mem_nil
    · contradiction
  · intro s invoker options
    refine ⟨s.calls options, s.init_trace invoker options, ?_⟩
    intro spec given htold
    have herror := s.init_error_of_given invoker options given htold
    refine ⟨s.init_warnings_of_given invoker options given htold, herror, ?_⟩
    intro hnone
    rw [← check_error_eq_none_iff, herror, hnone, Option.none_or]
    cases hcheck : (server.check s.settings).error with
    | none => cases (s.init invoker options).cancelled <;> simp
    | some error =>
      obtain ⟨text, rfl⟩ := server.exists_text_of_check s.settings error hcheck
      simp

def stingy : ServerSettings := ⟨false, 60⟩

def stingyClient : ClientSpec := { serverSettings := fun _ => { outcome := .ok (some stingy) } }

def hopeful (ttl : String) : Session :=
  { settings := Settings.empty.setAll
      [(Settings.connectionString, .text "db"), (Settings.clientCacheEnabled, .text "Yes"),
        (Settings.cacheTtl, .text ttl)]
    services := some
      { reporter := .silent
        telemetry := fun _ _ => { outcome := .failed ⟨"offline", []⟩ }
        installer := fun _ _ _ _ => { outcome := .failed ⟨"offline", []⟩ }
        connector := fun _ _ _ _ _ => { outcome := .done stingyClient } }
    workspace := some { path := "/w", root := { name := "w" } } }

theorem hopeful_relayed (ttl : String) (calls : List Event) :
    (hopeful ttl).relayed calls = [] :=
  Services.relayed_of_silent _ (fun _ _ _ _ => rfl) _ _

theorem hopeful_findings :
    (stingy.check (hopeful "9223372036854775808").settings).error ≠ none ∧
      ((hopeful "9223372036854775808").init .check {}).result.warnings = ["offline", cacheOff] ∧
      ((hopeful " 3600").init .check {}).result.error = none ∧
      ((hopeful " 3600").init .check {}).result.warnings =
        ["offline", cacheOff, stingy.lowerTtl 3600] := by
  obtain ⟨hcheck, hinit⟩ := stingy.findings_reach_result
  obtain ⟨hfatal, -, hbeyond⟩ := hcheck (hopeful "9223372036854775808").settings
  obtain ⟨-, -, hlong⟩ := hcheck (hopeful " 3600").settings
  obtain ⟨calls, htrace, hended⟩ := hinit (hopeful "9223372036854775808") .check {}
  obtain ⟨calls', htrace', hended'⟩ := hinit (hopeful " 3600") .check {}
  rw [hopeful_relayed, List.append_nil] at htrace htrace'
  obtain rfl : ((hopeful "9223372036854775808").init .check {}).trace = calls := htrace
  obtain rfl : ((hopeful " 3600").init .check {}).trace = calls' := htrace'
  obtain ⟨hwarnings, -, -⟩ := hended stingyClient (List.mem_singleton.mpr rfl) rfl
  obtain ⟨hwarnings', herror, -⟩ := hended' stingyClient (List.mem_singleton.mpr rfl) rfl
  have hseconds : (hopeful " 3600").settings.getInt Settings.cacheTtl = 3600 := rfl
  refine ⟨?_, ?_, ?_, ?_⟩
  · refine hfatal.mpr ⟨.text "9223372036854775808", rfl, ?_⟩
    rw [Setting.positive_iff]
    decide
  · rw [hwarnings, hbeyond]
    rfl
  · rw [herror]
    rfl
  · rw [hwarnings', hlong, hseconds]
    rfl

end WorkspaceSession
