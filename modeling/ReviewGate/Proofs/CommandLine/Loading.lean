import ReviewGate.Proofs.CommandLine.Task
import ReviewGate.Proofs.Config.Acceptance
import ReviewGate.Proofs.Files.Following

/-!
# Bad configurations

Loading a configuration file gives settings or a mistake of the user, be it that the file may not
be read. The exception are bytes that break it (`Breaks`): bytes that are not UTF-8, data that is
nested too deeply, a scalar that stands for no value of its kind, and data that baffles the checks.
A mistake ends a run with its message and status 2 (`run_of_mistake`), while a file that breaks
loading ends it without a message of its own and with status 1 (`run_of_breakdown`).
-/

set_option autoImplicit false

namespace ReviewGate

open Files (Path Workspace)

/-! ## Loading -/

namespace Config

/-- Bytes break the loading of a configuration. -/
inductive Breaks (bytes : List UInt8) : Prop
  | notUtf8 (read : Yaml.load bytes = .error .notUtf8)
  | tooDeep (read : Yaml.load bytes = .error .tooDeep)
  | badValue {cause : Yaml.BadValue} (read : Yaml.load bytes = .error (.badValue cause))
  | baffling {data : Data.Graph} (read : Yaml.load bytes = .ok data) (baffles : Baffles data)

/-- A configuration is settled when it gives settings or a mistake. -/
def Loading.Settled (loading : Loading) : Prop :=
  (∃ settings, loading.result = .ok settings) ∨
    ∃ mistake, loading.result = .error (.mistake mistake)

section Load

variable {space : Workspace} {path : Path} {bytes : List UInt8} {data : Data.Graph}

theorem result_loadSettings (path : Path) (data : Data.Graph) :
    (loadSettings path data).result = (check data).1.mapError (Failure.inFile path) :=
  rfl

/-- Of the data in a file, only what baffles the checks is not settled. -/
theorem settled_loadSettings_iff : (loadSettings path data).Settled ↔ ¬ Baffles data := by
  rw [← settled_or_rejected_iff, Loading.Settled, result_loadSettings]
  cases (check data).1 with
  | ok settings => simp [Except.mapError]
  | error failure => cases failure <;> simp [Except.mapError, Failure.inFile]

theorem breaks_iff_of_ok (read : Yaml.load bytes = .ok data) : Breaks bytes ↔ Baffles data := by
  constructor
  · rintro (same | same | same | ⟨same, baffles⟩)
    case baffling =>
      cases read.symm.trans same
      exact baffles
    all_goals cases read.symm.trans same
  · exact .baffling read

theorem breaks_iff_of_error {fault : Yaml.Fault} (read : Yaml.load bytes = .error fault) :
    Breaks bytes ↔ ∀ cause, fault ≠ .malformed cause := by
  constructor
  · rintro (same | same | same | ⟨same, -⟩) <;> cases read.symm.trans same <;> simp
  · intro other
    cases fault with
    | malformed cause => exact absurd rfl (other cause)
    | badValue cause => exact .badValue read
    | notUtf8 => exact .notUtf8 read
    | tooDeep => exact .tooDeep read

theorem load_of_read (there : space.probe path = .ok (some (.file bytes)))
    (opened : space.readBytes path = .ok bytes) :
    load space path = match Yaml.load bytes with
      | .ok data => loadSettings path data
      | .error fault => ⟨.error (faultIn path fault), []⟩ := by
  cases read : Yaml.load bytes <;> simp only [load, there, opened, read]

theorem load_of_unread {error : Files.FileError}
    (there : space.probe path = .ok (some (.file bytes)))
    (closed : space.readBytes path = .error error) :
    load space path = ⟨.error (.mistake (.unreadable path error)), []⟩ := by
  simp only [load, there, closed]

/-- **A file gives settings or a mistake unless it is read and its bytes break loading.** -/
theorem settled_load_iff (there : space.probe path = .ok (some (.file bytes))) :
    (load space path).Settled ↔ ¬ (space.readBytes path = .ok bytes ∧ Breaks bytes) := by
  rcases Workspace.readBytes_of_file there with opened | closed
  case inr =>
    rw [load_of_unread there closed, closed, Loading.Settled]
    simp
  rw [load_of_read there opened, and_iff_right opened]
  cases read : Yaml.load bytes with
  | ok data =>
      rw [breaks_iff_of_ok read]
      exact settled_loadSettings_iff
  | error fault =>
      rw [breaks_iff_of_error read, Loading.Settled]
      cases fault <;> simp [faultIn]

theorem breakdown_of_breaks (there : space.probe path = .ok (some (.file bytes)))
    (opened : space.readBytes path = .ok bytes) (breaks : Breaks bytes) :
    ∃ cause, (load space path).result = .error (.breakdown cause) := by
  have unsettled : ¬ (load space path).Settled :=
    fun settled => (settled_load_iff there).mp settled ⟨opened, breaks⟩
  cases failed : (load space path).result with
  | ok settings => exact absurd (.inl ⟨settings, failed⟩) unsettled
  | error failure =>
      cases failure with
      | mistake mistake => exact absurd (.inr ⟨mistake, failed⟩) unsettled
      | breakdown cause => exact ⟨cause, rfl⟩

/-- The limit of a configuration that is loaded is positive. -/
theorem positive_of_load {settings : Settings}
    (loaded : (load space path).result = .ok settings) : 1 ≤ settings.budget.maxLines := by
  rw [load] at loaded
  split at loaded
  · cases loaded
  · split at loaded
    · cases loaded
    · split at loaded
      · next data _ =>
        rw [result_loadSettings] at loaded
        cases checked : (check data).1 with
        | error failure => rw [checked] at loaded; cases loaded
        | ok settings' =>
            rw [checked] at loaded
            cases loaded
            exact positive_of_check checked
      · cases loaded
  · cases loaded
    decide

end Load

end Config

/-! ## Running -/

namespace CommandLine

open Config (Breaks Loading)

section Run

variable {scene : Scene} {space : Workspace} {arguments rest : List Text} {topic : Topic}
  {options : ProgramOptions} {name : Text}

theorem run_of_mistake {mistake : Config.Mistake}
    (program : readProgram space arguments = .ok (options, name :: rest))
    (known : Topic.commands.lookup name = some topic)
    (failed : (Config.load space (options.configPath space)).result = .error (.mistake mistake)) :
    run scene space arguments =
      (Outcome.message scene space 2 (errorLine mistake.message)).behind options.verbose
        (Config.load space (options.configPath space)).log := by
  rw [run_of_readProgram program known, runConfigured]
  rw [ProgramOptions.configPath] at failed ⊢
  simp only [failed]

theorem run_of_breakdown {cause : Config.Breakdown}
    (program : readProgram space arguments = .ok (options, name :: rest))
    (known : Topic.commands.lookup name = some topic)
    (failed : (Config.load space (options.configPath space)).result = .error (.breakdown cause)) :
    run scene space arguments =
      (Outcome.aborted space (.config cause)).behind options.verbose
        (Config.load space (options.configPath space)).log := by
  rw [run_of_readProgram program known, runConfigured]
  rw [ProgramOptions.configPath] at failed ⊢
  simp only [failed]

/-- **Every bad configuration is refused with an error line and status 2, unless it is read and its
bytes break loading.** Data gives settings or is rejected unless it baffles the checks, and a run
under a file that breaks loading ends without a message of its own. -/
theorem bad_configuration_refused_iff {bytes : List UInt8}
    (program : readProgram space arguments = .ok (options, name :: rest))
    (known : Topic.commands.lookup name = some topic)
    (there : space.probe (options.configPath space) = .ok (some (.file bytes))) :
    (∀ data, ((∃ settings, (Config.check data).1 = .ok settings) ∨
        ∃ cause, (Config.check data).1 = .error (.rejected cause)) ↔ ¬ Config.Baffles data) ∧
    (((∃ settings, (Config.load space (options.configPath space)).result = .ok settings) ∨
        ∃ mistake,
          (Config.load space (options.configPath space)).result = .error (.mistake mistake) ∧
          run scene space arguments =
            (Outcome.message scene space 2 (errorLine mistake.message)).behind options.verbose
              (Config.load space (options.configPath space)).log) ↔
      ¬ (space.readBytes (options.configPath space) = .ok bytes ∧ Breaks bytes)) ∧
    (space.readBytes (options.configPath space) = .ok bytes → Breaks bytes →
      ∃ cause, run scene space arguments =
        (Outcome.aborted space (.config cause)).behind options.verbose
          (Config.load space (options.configPath space)).log) := by
  refine ⟨Config.settled_or_rejected_iff, ?_, ?_⟩
  · rw [← Config.settled_load_iff there, Loading.Settled]
    refine or_congr_right (exists_congr fun mistake => and_iff_left_of_imp fun failed => ?_)
    exact run_of_mistake program known failed
  · intro opened breaks
    obtain ⟨cause, failed⟩ := Config.breakdown_of_breaks there opened breaks
    exact ⟨cause, run_of_breakdown program known failed⟩

/-- The working directory with a configuration file in it. -/
def spaceOfConfig (bytes : List UInt8) : Workspace where
  tree := Files.Tree.empty.put [configName] (.file bytes)
  here := []

theorem isDirect_configFile (bytes : List UInt8) :
    (spaceOfConfig bytes).IsDirect ⟨['/'], [configName]⟩ configName :=
  ⟨rfl, by decide, by decide, by decide, rfl⟩

theorem bad_configuration_refused_iff_not_utf8 :
    Breaks [0xFF] ∧
      (run plainScene (spaceOfConfig [0xFF]) ["adr".toList]).ending.status = 1 := by
  have program : readProgram (spaceOfConfig [0xFF]) ["adr".toList] =
    .ok (⟨false, false, none⟩, ["adr".toList]) := rfl
  have known : Topic.commands.lookup "adr".toList = some .record := rfl
  have there : (spaceOfConfig [0xFF]).probe
      (ProgramOptions.configPath (spaceOfConfig [0xFF]) ⟨false, false, none⟩) =
    .ok (some (.file [0xFF])) := (isDirect_configFile _).probe_file rfl
  have opened : (spaceOfConfig [0xFF]).readBytes
      (ProgramOptions.configPath (spaceOfConfig [0xFF]) ⟨false, false, none⟩) = .ok [0xFF] :=
    (isDirect_configFile _).readBytes_file rfl rfl
  have breaks : Breaks [0xFF] := .notUtf8 rfl
  obtain ⟨cause, ended⟩ : ∃ cause, run plainScene (spaceOfConfig [0xFF]) ["adr".toList] = _ :=
    (bad_configuration_refused_iff program known there).2.2 opened breaks
  exact ⟨breaks, by rw [ended]; rfl⟩

/-- A configuration in which the format is a list. -/
def listedFormat : List UInt8 :=
  Text.encode "adr: {format: [json]}".toList

/-- A list in the place of a format is neither accepted nor rejected. -/
theorem breaks_listedFormat : Breaks listedFormat := by
  have refused : ((Yaml.load listedFormat).toOption.bind fun data =>
      (Config.firstRefused? data).bind fun (entry, value) =>
        (data.container? value).map fun container => (entry.demand, container)) =
      some (.choice (Config.RecordFormat.all.map Config.RecordFormat.name),
        .list [.text (Points.ofText "json".toList)]) := by
    decide +kernel
  obtain ⟨data, loaded, refused⟩ := Option.bind_eq_some_iff.mp refused
  obtain ⟨⟨entry, value⟩, first, refused⟩ := Option.bind_eq_some_iff.mp refused
  obtain ⟨container, composite, same⟩ := Option.map_eq_some_iff.mp refused
  obtain ⟨named, rfl⟩ := Prod.mk.inj same
  exact .baffling (toOption_eq_some_iff.mp loaded)
    (.composite first named composite fun _ => nofun)

/-- A run under such a configuration tells nothing and ends with status 1, although the
configuration is bad. -/
theorem listed_format_is_not_refused :
    ¬ (Config.load (spaceOfConfig listedFormat) ⟨['/'], [configName]⟩).Settled ∧
      (run plainScene (spaceOfConfig listedFormat) ["adr".toList]).ending.status = 1 := by
  have program : readProgram (spaceOfConfig listedFormat) ["adr".toList] =
    .ok (⟨false, false, none⟩, ["adr".toList]) := rfl
  have known : Topic.commands.lookup "adr".toList = some .record := rfl
  have there : (spaceOfConfig listedFormat).probe ⟨['/'], [configName]⟩ =
    .ok (some (.file listedFormat)) := (isDirect_configFile _).probe_file rfl
  have opened : (spaceOfConfig listedFormat).readBytes ⟨['/'], [configName]⟩ =
    .ok listedFormat := (isDirect_configFile _).readBytes_file rfl rfl
  obtain ⟨cause, failed⟩ := Config.breakdown_of_breaks there opened breaks_listedFormat
  refine ⟨fun settled => ?_, ?_⟩
  · exact (Config.settled_load_iff there).mp settled ⟨opened, breaks_listedFormat⟩
  rw [run_of_breakdown program known failed]
  rfl

end Run

end CommandLine

end ReviewGate
