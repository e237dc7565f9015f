import Amalgam.CommandLine.Run
import Amalgam.Proofs.Plan.Failure
import Amalgam.Proofs.Settings
import Amalgam.Proofs.Walk.Run

/-!
# The stages of a run

A run with good arguments takes the user's settings file, the project's, the
exclude patterns, standard input, the headers and their order, one after the
other. `Fails` says at which of these a run fails, all before it being in order,
and `Succeeds` what is written if none does. A run does the one or the other, and
a failure that comes before the headers leaves them unread.

Nothing is asked of the readers of patterns and of settings files. Whether a text
is in order is what they say, and a refused text is reported in their words.
-/

namespace Amalgam.CommandLine

-- ---------------------------------------------------------------------------
-- Settings
-- ---------------------------------------------------------------------------

namespace Host

/-- A settings file spells a layer. One that is not there leaves everything open. -/
inductive FileGives (h : Host) (path : Path) : Layer → Prop where
  | absent : h.isPresent path = false → FileGives h path {}
  | spelled {text : String} {layer : Layer} :
      h.isPresent path = true → h.readFile path = .ok text → h.format.layer text = .ok layer →
      FileGives h path layer

/-- A settings file is there, but it cannot be read or spells no layer. -/
inductive FileFails (h : Host) (path : Path) : SettingsError → Prop where
  | unreadable {cause : ReadError} :
      h.isPresent path = true → h.readFile path = .error cause →
      FileFails h path (.unreadable path cause)
  | malformed {text cause : String} :
      h.isPresent path = true → h.readFile path = .ok text → h.format.layer text = .error cause →
      FileFails h path (.malformed ⟨path, cause⟩)

/-- What the user's settings file gives. There is none without a directory for it. -/
inductive UserGives (h : Host) : Layer → Prop where
  | nowhere : h.userFile? = none → UserGives h {}
  | file {path : Path} {layer : Layer} :
      h.userFile? = some path → h.FileGives path layer → UserGives h layer

variable {h : Host} {path : Path} {layer : Layer} {e : SettingsError}

theorem FileGives.layer_eq (hf : h.FileGives path layer) : h.layer path = .ok layer := by
  cases hf with
  | absent hp => simp [Host.layer, hp]
  | spelled hp hr ht => simp [Host.layer, hp, hr, ht]

theorem FileFails.layer_eq (hf : h.FileFails path e) : h.layer path = .error e := by
  cases hf with
  | unreadable hp hr => simp [Host.layer, hp, hr]
  | malformed hp hr ht => simp [Host.layer, hp, hr, ht]

theorem UserGives.userLayer_eq (hu : h.UserGives layer) : h.userLayer = .ok layer := by
  cases hu with
  | nowhere hp => simp [userLayer, hp]
  | file hp hf => simp [userLayer, hp, hf.layer_eq]

end Host

def resolved (h : Host) (a : Arguments) (user project : Layer) : Settings :=
  Settings.merge a.overrides (h.envValue? "HINLINE_INCLUDE_DIR") project user h.defaultIncludeDir

/-- The first of the settings files and patterns that is not in order. -/
inductive SettingsFail (h : Host) (a : Arguments) : SettingsError → Prop where
  | user {path : Path} {e : SettingsError} :
      h.userFile? = some path → h.FileFails path e → SettingsFail h a e
  | project {user : Layer} {e : SettingsError} :
      h.UserGives user → h.FileFails (Host.projectFile h.cwd) e → SettingsFail h a e
  | pattern {user project : Layer} {text cause : String} :
      h.UserGives user → h.FileGives (Host.projectFile h.cwd) project →
      (Settings.layered a.overrides project user).find? (Exclusion.isMalformed h.engine) =
        some text →
      h.engine.compile text = .error cause → SettingsFail h a (.pattern ⟨text, cause⟩)

/-- The inliner that the layers ask for, all settings files and patterns being in order. -/
inductive Prepares (h : Host) (a : Arguments) : Inliner → Prop where
  | intro {user project : Layer} {ex : Exclusion} :
      h.UserGives user → h.FileGives (Host.projectFile h.cwd) project →
      Exclusion.compile h.engine (Settings.layered a.overrides project user) = .ok ex →
      Prepares h a (inliner (resolved h a user project) ex h.headers)

section Settings

variable {h : Host} {a : Arguments} {user project : Layer} {inl : Inliner}

theorem settings_of_layers (hu : h.UserGives user)
    (hfile : h.FileGives (Host.projectFile h.cwd) project) :
    h.settings h.cwd a.overrides =
      Settings.resolve h.engine a.overrides (h.envValue? "HINLINE_INCLUDE_DIR") project user
        h.defaultIncludeDir := by
  simp only [Host.settings, Host.projectLayer, hu.userLayer_eq, hfile.layer_eq]

theorem SettingsFail.settings_eq {e : SettingsError} (hf : SettingsFail h a e) :
    h.settings h.cwd a.overrides = .error e := by
  cases hf with
  | user hp hfile => simp only [Host.settings, Host.userLayer, hp, hfile.layer_eq]
  | project hu hfile =>
    simp only [Host.settings, Host.projectLayer, hu.userLayer_eq, hfile.layer_eq]
  | pattern hu hfile hfind hcause =>
    rw [settings_of_layers hu hfile]
    exact Settings.resolve_eq_error.mpr ⟨_, Exclusion.compile_eq_error.mpr ⟨hfind, hcause⟩, rfl⟩

theorem Prepares.settings_eq (hp : Prepares h a inl) :
    ∃ settings ex, h.settings h.cwd a.overrides = .ok settings ∧
      settings.exclusion h.engine = .ok ex ∧ inl = inliner settings ex h.headers := by
  cases hp with
  | @intro user project ex hu hfile hcompile =>
    refine ⟨resolved h a user project, ex, ?_, Settings.exclusion_eq_ok.mpr hcompile, rfl⟩
    rw [settings_of_layers hu hfile]
    exact Settings.resolve_eq_ok.mpr ⟨rfl, ex, hcompile⟩

end Settings

-- ---------------------------------------------------------------------------
-- The run
-- ---------------------------------------------------------------------------

/-- The first stage of a run that fails, and why. -/
inductive Fails (h : Host) (a : Arguments) : RunError → Prop where
  | settings {e : SettingsError} : SettingsFail h a e → Fails h a (.settings e)
  | stdin {inl : Inliner} : Prepares h a inl → String.fromUTF8? h.stdin = none → Fails h a .stdin
  /-- The walk comes to a header that cannot be read. -/
  | header {inl : Inliner} {source : String} {e : Unreadable} :
      Prepares h a inl → String.fromUTF8? h.stdin = some source →
      Walk.StopsAt inl.reader (inl.walk source).reads e → Fails h a (.inline (.unreadable e))
  /-- All headers can be read, but they cannot be put in order. -/
  | cycle {inl : Inliner} {source : String} {e : CycleError} :
      Prepares h a inl → String.fromUTF8? h.stdin = some source →
      (∀ read ∈ (inl.walk source).reads, ∃ content, inl.reader.read read.target = .ok content) →
      (Graph.ofEdges (inl.walk source).reads).order rootLabel = .error e →
      Fails h a (.inline (.cyclic e))

inductive Succeeds (h : Host) (a : Arguments) : String → Prop where
  | unit {inl : Inliner} {source unit : String} :
      Prepares h a inl → String.fromUTF8? h.stdin = some source →
      a.order = false → inl.inline source = .ok unit → Succeeds h a unit
  | order {inl : Inliner} {source : String} {plan : Plan} :
      Prepares h a inl → String.fromUTF8? h.stdin = some source →
      a.order = true → a.json = false → inl.plan source = .ok plan →
      Succeeds h a (Text.unlines plan.order)
  | report {inl : Inliner} {source : String} {plan : Plan} :
      Prepares h a inl → String.fromUTF8? h.stdin = some source →
      a.order = true → a.json = true → inl.plan source = .ok plan →
      Succeeds h a (jsonReport plan)

section Run

variable {h : Host} {a : Arguments} {inl : Inliner} {source : String}

theorem plan_of_stopsAt {e : Unreadable}
    (hs : Walk.StopsAt inl.reader (inl.walk source).reads e) :
    inl.plan source = .error (.unreadable e) :=
  Inliner.plan_eq_error.mpr (.inl ⟨e, Walk.extract_eq_error.mpr hs, rfl⟩)

theorem plan_of_order {e : CycleError}
    (hread : ∀ read ∈ (inl.walk source).reads, ∃ content, inl.reader.read read.target = .ok content)
    (ho : (Graph.ofEdges (inl.walk source).reads).order rootLabel = .error e) :
    inl.plan source = .error (.cyclic e) := by
  obtain ⟨x, hx⟩ := Walk.exists_extract_iff.mpr hread
  have hedges : (inl.walk source).reads = x.edges := Walk.reads_eq_edges hx
  rw [hedges] at ho
  exact Inliner.plan_eq_error.mpr (.inr ⟨x, e, hx, ho, rfl⟩)

theorem output_of_plan {e : InlineError} (hplan : inl.plan source = .error e) :
    output a inl source = .error e := by
  cases ho : a.order with
  | true => simp only [output, ho, hplan, if_true]
  | false =>
    have hinline := Inliner.inline_eq_error.mpr hplan
    simp [output, ho, hinline]

theorem Prepares.produce_eq (hp : Prepares h a inl) :
    produce h a =
      match String.fromUTF8? h.stdin with
      | none => .error .stdin
      | some source =>
        match output a inl source with
        | .error e => .error (.inline e)
        | .ok text => .ok text := by
  obtain ⟨settings, ex, hs, hex, rfl⟩ := hp.settings_eq
  cases hin : String.fromUTF8? h.stdin with
  | none => simp only [produce, hs, hin]
  | some source =>
    cases hout : output a (inliner settings ex h.headers) source with
    | error e => simp only [produce, hs, hin, hex, hout]
    | ok text => simp only [produce, hs, hin, hex, hout]

theorem Fails.produce_eq {e : RunError} (hf : Fails h a e) : produce h a = .error e := by
  cases hf with
  | settings hf => simp only [produce, hf.settings_eq]
  | stdin hp hin => simp only [hp.produce_eq, hin]
  | header hp hin hs => simp only [hp.produce_eq, hin, output_of_plan (plan_of_stopsAt hs)]
  | cycle hp hin hread ho =>
    simp only [hp.produce_eq, hin, output_of_plan (plan_of_order hread ho)]

theorem Succeeds.produce_eq {stdout : String} (hs : Succeeds h a stdout) :
    produce h a = .ok stdout := by
  cases hs with
  | unit hp hin ho hunit => simp [hp.produce_eq, hin, output, ho, hunit]
  | order hp hin ho hj hplan => simp [hp.produce_eq, hin, output, ho, hj, hplan, textReport]
  | report hp hin ho hj hplan => simp [hp.produce_eq, hin, output, ho, hj, hplan]

end Run

end Amalgam.CommandLine
