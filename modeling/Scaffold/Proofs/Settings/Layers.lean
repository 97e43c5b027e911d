import Mathlib.Data.List.Induction
import Scaffold.Program
import Scaffold.Proofs.Settings.Fields

/-!
# Who decides a setting

A setting can be given by the command, by a variable of the environment, and by the files that
lie over each other.  The command goes before the variables and these before the files; but an
empty variable counts for the namespace alone, and of the files not the last one that gives the
setting decides but the last one that sets its section, even by leaving the setting out.

The program lays one file over the other and then changes what has come out of it.  Here the
same is told setting by setting, from the tables of the files as they stand.

## Main definitions

* `FileStore.layer?`, `SettingsSources.layersIn` — what a file says as a layer, and the files
  that count.
* `Settings.ofLayers`, `decidedBy?` — the settings of layers, and the text that they give one.
* `GenerateCommand.Decides` — every setting told by what may give it.

## Main results

* `SettingsText.Part.of_layers` — a section under layers is that of the last one that sets it.
* `run_stackFiles_of_layers`, `run_stackFiles_of_broken` — a run over files.
* `resolveSettings_by_precedence` — **every setting follows its precedence, and a file that
  cannot be used is an error.**
-/

namespace Scaffold

/-! ### Layers over each other -/

/-- The settings of layers, each laid over those in front of it. -/
def Settings.ofLayers (layers : List SettingsText) : Settings :=
  layers.foldl (fun below t => t.layOver below) {}

/-- The text that layers give a setting.  The last one that sets its section decides. -/
def decidedBy? (layers : List SettingsText) (key : SettingKey) : Option String :=
  (layers.reverse.find? (·.sets key.group)).bind (·.given? key)

section Layers

variable {σ α : Type} {group : String} {form : SectionForm σ} {part : Settings → σ}

/-- **A section under layers is that of the last one that sets it**, by induction on the layers
from the last one. -/
theorem SettingsText.Part.of_layers (hpart : Part group form part) (layers : List SettingsText) :
    part (.ofLayers layers) =
      ((layers.reverse.find? (·.sets group)).map fun t => part t.settings).getD form.plain := by
  induction layers using List.reverseRecOn with
  | nil => exact hpart.plain
  | append_singleton layers t ih =>
    rw [Settings.ofLayers, List.foldl_concat, hpart.lies, List.reverse_concat, List.find?_cons]
    cases t.sets group with
    | true => rfl
    | false => exact ih

/-- A setting under layers that have been read. -/
theorem SettingsText.Part.decided (hpart : Part group form part) {name : String} {place : Nat}
    {get : σ → α} {ofText : String → α} (hfield : form.Holds name place get ofText)
    {layers : List SettingsText} (hread : ∀ t ∈ layers, ∃ text, read text = some t) :
    get (part (.ofLayers layers)) =
      ((decidedBy? layers ⟨group, name, place⟩).map ofText).getD (get form.plain) := by
  rw [hpart.of_layers, decidedBy?]
  cases hlast : layers.reverse.find? (·.sets group) with
  | none => rfl
  | some t =>
    obtain ⟨text, htext⟩ := hread t (List.mem_reverse.mp (List.mem_of_find?_eq_some hlast))
    exact hpart.given hfield htext

end Layers

theorem SettingsStack.foldl_push (files : List SettingsFile) :
    files.foldl push {} =
      { settings := .ofLayers (files.map (·.text)), warnings := files.flatMap (·.warnings) } := by
  rw [Settings.ofLayers, List.foldl_map]
  induction files using List.reverseRecOn with
  | nil => rfl
  | append_singleton files file ih =>
    rw [List.foldl_concat, ih, List.foldl_concat, List.flatMap_append, List.flatMap_singleton]
    rfl

/-! ### A run over files -/

/-- What a file says as a layer, if it is there and can be used. -/
def FileStore.layer? (store : FileStore) (path : Path) : Option SettingsFile := do
  let text ← store.files.get? path.text
  let t ← SettingsText.read text
  if t.table.isSound then some ⟨t, t.warnings path text⟩ else none

/-- The files of a store that count, the lowest first: the one that was asked for, there or not,
or those that are there. -/
def SettingsSources.layersIn (s : SettingsSources) (store : FileStore) : List Path :=
  match s.explicit with
  | some path => [path]
  | none => (s.user.toList ++ [s.projectFile]).filter store.has

section Run

variable {store : FileStore} {path : Path}

theorem FileStore.exists_read_of_layer? {file : SettingsFile} (h : store.layer? path = some file) :
    ∃ text, SettingsText.read text = some file.text := by
  obtain ⟨text, -, h⟩ := Option.bind_eq_some_iff.mp h
  obtain ⟨t, hread, h⟩ := Option.bind_eq_some_iff.mp h
  split at h
  · obtain rfl := Option.some.inj h
    exact ⟨text, hread⟩
  · cases h

theorem run_readText (store : FileStore) (path : Path) :
    (FileStore.system.readText path).run store =
      ((store.files.get? path.text).elim (.error .missing) .ok, store) := by
  simp only [FileStore.system, StateT.run_bind, StateT.run_get, pure_bind]
  cases store.files.get? path.text <;> rfl

/-- Reading settings asks the store for one text and leaves it as it is. -/
theorem run_loadSettings (store : FileStore) (path : Path) :
    (loadSettings FileStore.system path).run store =
      ((store.files.get? path.text).elim (.error ⟨path, ReadFault.missing.message⟩)
        (SettingsFile.ofText path), store) := by
  rw [loadSettings, StateT.run_bind, run_readText]
  cases store.files.get? path.text <;> rfl

/-- Reading a layer answers what the file says, or fails. -/
theorem run_loadLayer (store : FileStore) (path : Path) :
    (∃ file, store.layer? path = some file ∧
      (loadLayer FileStore.system path).run store = (.ok file, store)) ∨
    (store.layer? path = none ∧
      ∃ fault, (loadLayer FileStore.system path).run store = (.error fault, store)) := by
  rw [loadLayer, StateT.run_bind, run_loadSettings, FileStore.layer?]
  cases store.files.get? path.text with
  | none => exact .inr ⟨rfl, _, rfl⟩
  | some text =>
    rw [Option.bind_eq_bind, Option.bind_some, Option.elim_some, SettingsFile.ofText]
    cases SettingsText.read text with
    | none => exact .inr ⟨rfl, _, rfl⟩
    | some t =>
      rw [Option.bind_eq_bind, Option.bind_some]
      show (∃ file, _ ∧ StateT.run (if t.table.isSound = true then _ else _) store = _) ∨ (_ ∧
        ∃ fault, StateT.run (if t.table.isSound = true then _ else _) store = _)
      cases t.table.isSound with
      | true => exact .inl ⟨_, rfl, rfl⟩
      | false => exact .inr ⟨rfl, _, rfl⟩

theorem run_takenPaths (store : FileStore) (paths : List Path) :
    (takenPaths FileStore.system paths).run store = (paths.filter store.has, store) := by
  induction paths with
  | nil => rfl
  | cons path rest ih =>
    have htaken : (FileStore.system.taken path).run store = (store.has path, store) := rfl
    rw [takenPaths, StateT.run_bind, htaken]
    show StateT.run (takenPaths FileStore.system rest >>= _) store = _
    rw [StateT.run_bind, ih, List.filter_cons]
    cases store.has path <;> rfl

theorem run_layers (s : SettingsSources) (store : FileStore) :
    (s.layers FileStore.system).run store = (s.layersIn store, store) := by
  rw [SettingsSources.layers, SettingsSources.layersIn]
  cases s.explicit with
  | none => exact run_takenPaths store _
  | some path => rfl

theorem run_stackFiles_cons (stack : SettingsStack) (path : Path) (rest : List Path)
    (store : FileStore) :
    (stackFiles FileStore.system stack (path :: rest)).run store =
      match (loadLayer FileStore.system path).run store with
      | (.error fault, s) => (.error fault, s)
      | (.ok file, s) => (stackFiles FileStore.system (stack.push file) rest).run s := by
  rw [stackFiles, StateT.run_bind]
  generalize (loadLayer FileStore.system path).run store = run
  obtain ⟨result, s⟩ := run
  cases result with
  | error fault => rfl
  | ok file => rfl

/-- **Files that can all be used are laid over each other in their order**, by induction on
them. -/
theorem run_stackFiles_of_layers {paths : List Path} {files : List SettingsFile}
    (h : paths.map store.layer? = files.map some) (stack : SettingsStack) :
    (stackFiles FileStore.system stack paths).run store =
      (.ok (files.foldl SettingsStack.push stack), store) := by
  induction paths generalizing files stack with
  | nil =>
    obtain rfl := List.map_eq_nil_iff.mp h.symm
    rfl
  | cons path rest ih =>
    cases files with
    | nil => cases h
    | cons file files =>
      obtain ⟨hfile, hrest⟩ := List.cons.inj h
      rw [run_stackFiles_cons]
      rcases run_loadLayer store path with ⟨_, hlayer, hrun⟩ | ⟨hnone, -⟩
      · obtain rfl := Option.some.inj (hlayer.symm.trans hfile)
        rw [hrun]
        exact ih hrest _
      · cases hnone.symm.trans hfile

/-- **A file that cannot be used is an error**, wherever it is among the others. -/
theorem run_stackFiles_of_broken {paths : List Path} (hmem : path ∈ paths)
    (h : store.layer? path = none) (stack : SettingsStack) :
    ∃ fault, (stackFiles FileStore.system stack paths).run store = (.error fault, store) := by
  induction paths generalizing stack with
  | nil => cases hmem
  | cons first rest ih =>
    rw [run_stackFiles_cons]
    rcases run_loadLayer store first with ⟨file, hlayer, hrun⟩ | ⟨-, fault, hrun⟩
    · rw [hrun]
      rcases List.mem_cons.mp hmem with rfl | hmem
      · cases hlayer.symm.trans h
      · exact ih hmem _
    · rw [hrun]
      exact ⟨fault, rfl⟩

theorem run_resolveSettings (s : SettingsSources) (env : Environment) (store : FileStore) :
    (resolveSettings FileStore.system s env).run store =
      match (stackFiles FileStore.system {} (s.layersIn store)).run store with
      | (.error fault, store') => (.error fault, store')
      | (.ok stack, store') =>
        (.ok { stack with settings := stack.settings.overriddenBy env }, store') := by
  rw [resolveSettings, StateT.run_bind, run_layers]
  show StateT.run (stackFiles FileStore.system {} (s.layersIn store) >>= _) store = _
  rw [StateT.run_bind]
  generalize (stackFiles FileStore.system {} (s.layersIn store)).run store = run
  obtain ⟨result, store'⟩ := run
  cases result with
  | error fault => rfl
  | ok stack => rfl

theorem run_resolveSettings_of_layers {s : SettingsSources} {files : List SettingsFile}
    (h : (s.layersIn store).map store.layer? = files.map some) (env : Environment) :
    (resolveSettings FileStore.system s env).run store =
      (.ok { settings := (Settings.ofLayers (files.map (·.text))).overriddenBy env
             warnings := files.flatMap (·.warnings) }, store) := by
  rw [run_resolveSettings, run_stackFiles_of_layers h, SettingsStack.foldl_push]

theorem run_resolveSettings_of_broken {s : SettingsSources} (hmem : path ∈ s.layersIn store)
    (h : store.layer? path = none) (env : Environment) :
    ∃ fault, (resolveSettings FileStore.system s env).run store = (.error fault, store) := by
  obtain ⟨fault, hrun⟩ := run_stackFiles_of_broken hmem h {}
  rw [run_resolveSettings, hrun]
  exact ⟨fault, rfl⟩

end Run

/-! ### Every setting by its precedence -/

/-- The settings that a command works with, each told by what may give it, the first of them
first: the command, the variable of the environment, the layers, and else the default. -/
structure GenerateCommand.Decides (c : GenerateCommand) (env : Environment)
    (files : List SettingsFile) (stack : SettingsStack) : Prop where
  /-- The directory of all domains; an empty variable gives none. -/
  outputDir : (c.runOptions stack.settings).outputDir =
    c.output.getD ⟨((env.nonempty? outputVariable).or
      (decidedBy? (files.map (·.text)) .outputDirectory)).getD "generated"⟩
  /-- The extension of the files; that of the variable loses its dots in front. -/
  extension : (c.runOptions stack.settings).extension =
    (((env.nonempty? extensionVariable).map dropDots).or
      (decidedBy? (files.map (·.text)) .extension)).getD "php"
  /-- The namespace above all domains, which an empty variable may well give. -/
  rootNamespace : (c.runOptions stack.settings).rootNamespace =
    c.rootNamespace.getD (((env.get? namespaceVariable).or
      (decidedBy? (files.map (·.text)) .rootNamespace)).getD "App")
  /-- The directory of templates, if there is to be one. -/
  templateDirectory : c.templateDirectory stack.settings =
    c.templates.or (((env.nonempty? templatesVariable).or
      (decidedBy? (files.map (·.text)) .templateDirectory)).map Path.mk)
  /-- All layers are warned about, in their order. -/
  warnings : stack.warnings = files.flatMap (·.warnings)

/-- What the layers decide, under the variables and the command. -/
theorem GenerateCommand.decides_of_layers (c : GenerateCommand) (env : Environment)
    {files : List SettingsFile}
    (hread : ∀ f ∈ files, ∃ text, SettingsText.read text = some f.text) :
    c.Decides env files
      { settings := (Settings.ofLayers (files.map (·.text))).overriddenBy env
        warnings := files.flatMap (·.warnings) } := by
  have htexts : ∀ t ∈ files.map (·.text), ∃ text, SettingsText.read text = some t :=
    List.forall_mem_map.mpr hread
  refine ⟨?_, ?_, ?_, ?_, rfl⟩
  · -- the output directory
    refine congrArg c.output.getD ?_
    have hlayers := SettingsText.part_output.decided OutputSettings.holds_directory htexts
    simp only [Settings.overriddenBy, hlayers, SettingKey.outputDirectory]
    cases env.nonempty? outputVariable with
    | some text => rfl
    | none =>
      rw [Option.none_or]
      cases decidedBy? (files.map (·.text)) ⟨"output", "directory", 0⟩ <;> rfl
  · -- the extension
    have hlayers := SettingsText.part_output.decided OutputSettings.holds_extension htexts
    simp only [GenerateCommand.runOptions, Settings.overriddenBy, hlayers, SettingKey.extension]
    cases env.nonempty? extensionVariable with
    | some text => rfl
    | none => rw [Option.map_none, Option.none_or, Option.map_id]; rfl
  · -- the root namespace, whose variable counts even if it is empty
    refine congrArg c.rootNamespace.getD ?_
    have hlayers := SettingsText.part_naming.decided NamingSettings.holds_rootNamespace htexts
    simp only [Settings.overriddenBy, hlayers, SettingKey.rootNamespace]
    cases env.get? namespaceVariable with
    | some text => rfl
    | none => rw [Option.none_or, Option.map_id]; rfl
  · -- the templates
    refine congrArg c.templates.or ?_
    have hlayers := SettingsText.part_templates.decided TemplateSettings.holds_directory htexts
    simp only [Settings.overriddenBy, hlayers, SettingKey.templateDirectory]
    cases env.nonempty? templatesVariable with
    | some text => rfl
    | none =>
      rw [Option.map_none, Option.none_or, Option.none_or]
      cases decidedBy? (files.map (·.text)) ⟨"templates", "directory", 0⟩ <;> rfl

/-- **Every setting follows its precedence**: if all the files that count can be used, settings
are resolved, and each of them is decided by the command, the variables, the layers and the
defaults, in this order; if one of the files cannot be used, or one that was asked for is not
there, there are no settings. -/
theorem resolveSettings_by_precedence (store : FileStore) (sources : SettingsSources)
    (env : Environment) :
    (∀ path ∈ sources.layersIn store, store.layer? path = none →
      ∃ fault, (resolveSettings FileStore.system sources env).run store = (.error fault, store)) ∧
    ∀ files, (sources.layersIn store).map store.layer? = files.map some →
      ∃ stack, (resolveSettings FileStore.system sources env).run store = (.ok stack, store) ∧
        ∀ c : GenerateCommand, c.Decides env files stack := by
  refine ⟨fun path hpath hbroken => run_resolveSettings_of_broken hpath hbroken env,
    fun files hfiles => ⟨_, run_resolveSettings_of_layers hfiles env, fun c => ?_⟩⟩
  refine c.decides_of_layers env fun file hfile => ?_
  have hmem : some file ∈ (sources.layersIn store).map store.layer? :=
    hfiles ▸ List.mem_map_of_mem hfile
  obtain ⟨path, -, hlayer⟩ := List.mem_map.mp hmem
  exact FileStore.exists_read_of_layer? hlayer

/-- A user's file and one of the project. -/
private def storeOf (user project : String) : FileStore where
  files := .ofList [("config.toml", user), ("app/layergen.toml", project)]

private def bothFiles : SettingsSources where
  user := some ⟨"config.toml"⟩
  project := ⟨"app"⟩

/-- What the two files of a store say, where both can be used. -/
private def filesOf (store : FileStore) : List SettingsFile :=
  (bothFiles.layersIn store).filterMap store.layer?

private theorem map_layer?_of_all {store : FileStore}
    (h : ((bothFiles.layersIn store).map store.layer?).all (·.isSome) = true) :
    (bothFiles.layersIn store).map store.layer? = (filesOf store).map some := by
  rw [filesOf, List.map_filterMap_some_eq_filter_map_isSome]
  exact (List.filter_eq_self.mpr (List.all_eq_true.mp h)).symm

private def extensionStore : FileStore :=
  storeOf "[output]\ndirectory = \"from-user\"\n\n[naming]\nroot_namespace = \"User\"\n"
    "[output]\nextension = \"inc\"\n"

private def emptyVariables : Environment :=
  .ofList [(namespaceVariable, ""), (templatesVariable, "")]

/-- The project sets its output without a directory, so that of the user is gone; the user's
namespace gives way to an empty variable. -/
theorem resolveSettings_by_precedence_extensionStore :
    ∃ stack, (resolveSettings FileStore.system bothFiles emptyVariables).run extensionStore
        = (.ok stack, extensionStore) ∧
      ∀ c : GenerateCommand, c.output = none → c.rootNamespace = none →
        (c.runOptions stack.settings).outputDir = ⟨"generated"⟩ ∧
        (c.runOptions stack.settings).extension = "inc" ∧
        (c.runOptions stack.settings).rootNamespace = "" ∧
        c.templateDirectory stack.settings = c.templates := by
  have hall : ((bothFiles.layersIn extensionStore).map extensionStore.layer?).all (·.isSome)
      = true := by decide +kernel
  obtain ⟨stack, hrun, hdecides⟩ :=
    (resolveSettings_by_precedence extensionStore bothFiles emptyVariables).2 _
      (map_layer?_of_all hall)
  have hfiles : ([.outputDirectory, .extension, .templateDirectory] : List SettingKey).map
      (decidedBy? ((filesOf extensionStore).map (·.text))) = [none, some "inc", none] := by
    decide +kernel
  simp only [List.map_cons, List.map_nil, List.cons.injEq, and_true] at hfiles
  obtain ⟨hdirectory, hextension, htemplates⟩ := hfiles
  have hvariables : ([outputVariable, extensionVariable, templatesVariable] : List String).map
      emptyVariables.nonempty? = [none, none, none] := by decide +kernel
  simp only [List.map_cons, List.map_nil, List.cons.injEq, and_true] at hvariables
  obtain ⟨hnoDirectory, hnoExtension, hnoTemplates⟩ := hvariables
  have hempty : emptyVariables.get? namespaceVariable = some "" := by decide +kernel
  refine ⟨stack, hrun, fun c houtput hnamespace => ⟨?_, ?_, ?_, ?_⟩⟩
  · rw [(hdecides c).outputDir, houtput, hnoDirectory, hdirectory]
    rfl
  · rw [(hdecides c).extension, hnoExtension, hextension]
    rfl
  · rw [(hdecides c).rootNamespace, hnamespace, hempty]
    rfl
  · rw [(hdecides c).templateDirectory, hnoTemplates, htemplates]
    exact Option.or_none

/-! ### What else sets a section, and what else breaks a layer -/

/-- A section stands in the text as a table that is not empty. -/
def SettingsText.hasTable (t : SettingsText) (group : String) : Bool :=
  match t.table.lookup group with
  | some (.table entries) => !entries.isEmpty
  | _ => false

private def arrayStore : FileStore :=
  storeOf "[output]\ndirectory = \"from-user\"\n" "output = []\n"

private def arrayStack : SettingsStack where
  settings := (Settings.ofLayers ((filesOf arrayStore).map (·.text))).overriddenBy ∅
  warnings := (filesOf arrayStore).flatMap (·.warnings)

private def dateText : String := "zz.\"$__toml_private_datetime\" = 1\n"

/-- It is not the last table of a section that decides, and not every text that gives settings
can be a layer: a project whose section is an array without items takes the directory back to
its default, and a text with a table that is taken for a date is refused. -/
theorem exists_layers_not_by_tables :
    (∃ (store : FileStore) (sources : SettingsSources) (files : List SettingsFile)
        (stack : SettingsStack),
      (sources.layersIn store).map store.layer? = files.map some ∧
      (resolveSettings FileStore.system sources ∅).run store = (.ok stack, store) ∧
      ((files.map (·.text)).reverse.find? (·.hasTable "output")).bind
        (·.given? .outputDirectory) = some "from-user" ∧
      stack.settings.output.directory = ⟨"generated"⟩) ∧
    ∃ text, (SettingsText.read text).isSome = true ∧
      ∃ fault, (resolveSettings FileStore.system bothFiles ∅).run (storeOf "" text) =
        (.error fault, storeOf "" text) := by
  have hall : ((bothFiles.layersIn arrayStore).map arrayStore.layer?).all (·.isSome) = true := by
    decide +kernel
  have hfiles := map_layer?_of_all hall
  have htable : (((filesOf arrayStore).map (·.text)).reverse.find? (·.hasTable "output")).bind
      (·.given? .outputDirectory) = some "from-user" := by decide +kernel
  have hrun : (resolveSettings FileStore.system bothFiles ∅).run arrayStore =
      (.ok arrayStack, arrayStore) := run_resolveSettings_of_layers hfiles ∅
  have hdirectory : arrayStack.settings.output.directory = ⟨"generated"⟩ := by decide +kernel
  have hmem : ⟨"app/layergen.toml"⟩ ∈ bothFiles.layersIn (storeOf "" dateText) := by decide +kernel
  have hbroken : ((storeOf "" dateText).layer? ⟨"app/layergen.toml"⟩).isNone = true := by
    decide +kernel
  have hread : (SettingsText.read dateText).isSome = true := by decide +kernel
  exact ⟨⟨arrayStore, bothFiles, filesOf arrayStore, arrayStack, hfiles, hrun, htable, hdirectory⟩,
    dateText, hread, run_resolveSettings_of_broken hmem (Option.isNone_iff_eq_none.mp hbroken) ∅⟩

end Scaffold
