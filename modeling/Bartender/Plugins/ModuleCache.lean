import Bartender.Plugins.LoadedConfig

/-!
# The module that all configurations share

Every `beer.conf` is executed under the name `BGPLUGINCONFIG`, in the module that
`sys.modules` has under that name, with whatever is bound in it. The validator
removes the module whichever way it ends, and the loader once its configuration
is complete. What the loader leaves behind is read by the next validation.
-/

namespace Bartender

open LocalPluginValidator LocalPluginLoader

variable {Obj : Type}

def ConfigModule.fresh : ConfigModule Obj := fun _ => none

/-- `sys.modules.get("BGPLUGINCONFIG")`. -/
abbrev SharedModule (Obj : Type) := Option (ConfigModule Obj)

/-- A `beer.conf` is what executing it does: it may read and rebind all that the
module has bound, and may raise. -/
structure PluginDirectory (Obj : Type) where
  path : String
  execute : ConfigModule Obj → Checked Obj Unit × ConfigModule Obj

/-- What a directory comes to; there is no configuration unless it is asked for. -/
structure LoadOutcome (Obj : Type) where
  verdict : Checked Obj Bool
  config : Option (Checked Obj (LoadedConfig Obj))

/-- What `load_source` leaves in `sys.modules` of a module whose execution raised,
by what was there before and what has been bound. This is not the same in all
versions of Python. -/
abbrev Abandon (Obj : Type) := SharedModule Obj → ConfigModule Obj → SharedModule Obj

section Operations

variable (py : Interpreter Obj) (fs : FileSystem) (abandon : Abandon Obj)

/-- `load_source("BGPLUGINCONFIG", ...)`. -/
def loadSource (directory : PluginDirectory Obj) (shared : SharedModule Obj) :
    Checked Obj (ConfigModule Obj) × SharedModule Obj :=
  match directory.execute (shared.getD .fresh) with
  | (.ok (), config) => (.ok config, some config)
  | (.error e, config) => (.error e, abandon shared config)

/-- `validate_plugin`, whose `finally` removes the module. -/
def validatePluginShared (directory : PluginDirectory Obj) (shared : SharedModule Obj) :
    Checked Obj Bool × SharedModule Obj :=
  let (loaded, _) := loadSource abandon directory shared
  (validatePlugin py fs (some directory.path) loaded, none)

/-- `_load_plugin_config`, which removes the module unless it raises. -/
def loadPluginConfigShared (directory : PluginDirectory Obj) (shared : SharedModule Obj) :
    Checked Obj (LoadedConfig Obj) × SharedModule Obj :=
  match loadSource abandon directory shared with
  | (.error e, shared) => (.error e, shared)
  | (.ok config, shared) =>
    match loadPluginConfig py config with
    | .error e => (.error e, shared)
    | .ok loaded => (.ok loaded, none)

/-- `load_plugin`. What it does with a configuration has no part in the module. -/
def loadPluginShared (directory : PluginDirectory Obj) (shared : SharedModule Obj) :
    LoadOutcome Obj × SharedModule Obj :=
  match validatePluginShared py fs abandon directory shared with
  | (.ok true, shared) =>
    let (config, shared) := loadPluginConfigShared py abandon directory shared
    (⟨.ok true, some config⟩, shared)
  | (verdict, shared) => (⟨verdict, none⟩, shared)

/-- The loop of `load_plugins`, which goes on after an exception. -/
def loadPluginsShared : List (PluginDirectory Obj) → SharedModule Obj →
    List (LoadOutcome Obj) × SharedModule Obj
  | [], shared => ([], shared)
  | directory :: rest, shared =>
    let (outcome, shared) := loadPluginShared py fs abandon directory shared
    let (outcomes, shared) := loadPluginsShared rest shared
    (outcome :: outcomes, shared)

def loadAlone (directory : PluginDirectory Obj) : LoadOutcome Obj :=
  (loadPluginShared py fs abandon directory none).1

/-- Every directory comes to what it comes to alone. -/
def Isolated (directories : List (PluginDirectory Obj)) : Prop :=
  (loadPluginsShared py fs abandon directories none).1 = directories.map (loadAlone py fs abandon)

/-- `LOG_LEVEL` has a text, or none because of an `AttributeError`. -/
def LevelReads (config : ConfigModule Obj) : Prop :=
  py.prints (config.getattr "LOG_LEVEL" (.str "INFO")) = true ∨
    py.strLacksAttribute (config.getattr "LOG_LEVEL" (.str "INFO")) = true

def addKey (keys : List (ConfValue Obj)) (key : ConfValue Obj) : Option (List (ConfValue Obj)) :=
  (py.keyIn key keys).map fun found => if found then keys else keys ++ [key]

/-- `_load_plugin_config` raises on a module that was validated: `LOG_LEVEL` has no
text, or a name in `INSTANCES` cannot be the key of its arguments, next to the names
before it. -/
def Interrupts (config : ConfigModule Obj) : Prop :=
  ¬ LevelReads py config ∨
    ∃ names, config.getattr "INSTANCES" .none = .list names ∧
      names.foldlM (addKey py) [] = none ∧
      ∀ entries, config.getattr "PLUGIN_ARGS" .none ≠ .dict entries

/-- The validator finds nothing wrong with the directory, and the loader stops on
the way to its configuration. -/
def LeavesModule (directory : PluginDirectory Obj) : Prop :=
  ∃ config, directory.execute .fresh = (.ok (), config) ∧
    pluginFlaws py fs (some directory.path) config = [] ∧
    Interrupts py config

end Operations

section Loading

variable {py : Interpreter Obj} {fs : FileSystem} {abandon : Abandon Obj}

theorem map_fst_put {key value : ConfValue Obj} {entries : List (ConfValue Obj × ConfValue Obj)}
    {found : Bool} (h : found = true ↔ ∃ entry ∈ entries, py.sameKey key entry.1 = true) :
    (py.put key value entries).map (·.1) =
      if found then entries.map (·.1) else entries.map (·.1) ++ [key] := by
  induction entries with
  | nil =>
    have hnot : found = false := by simpa using h
    rw [hnot]
    rfl
  | cons entry rest ih =>
    rw [Interpreter.put]
    by_cases hsame : py.sameKey key entry.1 = true
    · have hfound : found = true := h.mpr ⟨entry, List.mem_cons_self, hsame⟩
      rw [if_pos hsame, hfound]
      rfl
    · have hrest : found = true ↔ ∃ entry ∈ rest, py.sameKey key entry.1 = true := by
        simpa [hsame] using h
      rw [if_neg hsame, List.map_cons, ih hrest]
      cases found <;> rfl

theorem assignEach_returns_iff {value : ConfValue Obj} {names : List (ConfValue Obj)}
    {pluginArgs : List (ConfValue Obj × ConfValue Obj)} :
    (∃ entries, assignEach py value names pluginArgs = .ok entries) ↔
      names.foldlM (addKey py) (pluginArgs.map (·.1)) ≠ none := by
  induction names generalizing pluginArgs with
  | nil => exact iff_of_true ⟨pluginArgs, rfl⟩ nofun
  | cons name names ih =>
    rw [assignEach, List.foldlM_cons, addKey, Interpreter.assign]
    cases hkey : py.keyIn name (pluginArgs.map (·.1)) with
    | none =>
      refine iff_of_false ?_ fun h => h rfl
      rintro ⟨_, h⟩
      cases h
    | some found =>
      have hkeys := @map_fst_put Obj py name value _ _ (keyIn_iff_exists hkey)
      exact ih.trans (by rw [hkeys]; rfl)

theorem returns_bind_iff {α β : Type} {x : Checked Obj α} {f : α → β} :
    (∃ b, (x >>= fun a => pure (f a)) = .ok b) ↔ ∃ a, x = .ok a := by
  cases x with
  | ok a => exact iff_of_true ⟨_, rfl⟩ ⟨_, rfl⟩
  | error e => refine iff_of_false ?_ ?_ <;> rintro ⟨_, h⟩ <;> cases h

theorem argsForEach_returns_iff {names : List (ConfValue Obj)} {value : ConfValue Obj} :
    (∃ pluginArgs, argsForEach py (.list names) value = .ok pluginArgs) ↔
      names.foldlM (addKey py) [] ≠ none :=
  returns_bind_iff.trans assignEach_returns_iff

/-- The names have to be keys where the arguments are not a dictionary already. -/
theorem instancesAndArgs_returns_iff {instances pluginArgs : ConfValue Obj}
    (hinstances : instancesFlaws instances = [])
    (hargs : ArgsAcceptable py instances pluginArgs) :
    (∃ both, instancesAndArgs py instances pluginArgs = .ok both) ↔
      ∀ names, instances = .list names → (∀ entries, pluginArgs ≠ .dict entries) →
        names.foldlM (addKey py) [] ≠ none := by
  rcases instancesFlaws_eq_nil.mp hinstances with rfl | ⟨names, rfl⟩
  · refine iff_of_true ?_ fun names h => nomatch h
    rcases hargs with rfl | ⟨values, rfl, -⟩ | ⟨entries, rfl, -⟩ <;> exact ⟨_, rfl⟩
  · have hlist : (∀ names', ConfValue.list names = .list names' →
        (∀ entries, pluginArgs ≠ .dict entries) → names'.foldlM (addKey py) [] ≠ none) ↔
          ((∀ entries, pluginArgs ≠ .dict entries) → names.foldlM (addKey py) [] ≠ none) :=
      ⟨fun h => h names rfl, fun h names' heq => ConfValue.list.inj heq ▸ h⟩
    rw [hlist]
    rcases hargs with rfl | ⟨values, rfl, -⟩ | ⟨entries, rfl, -⟩
    · have hnone : ∀ entries, (ConfValue.none : ConfValue Obj) ≠ .dict entries := nofun
      rw [imp_iff_right hnone]
      exact returns_bind_iff.trans argsForEach_returns_iff
    · have hlist : ∀ entries, ConfValue.list values ≠ .dict entries := nofun
      rw [imp_iff_right hlist]
      exact returns_bind_iff.trans argsForEach_returns_iff
    · exact iff_of_true ⟨_, rfl⟩ fun h => absurd rfl (h entries)

theorem not_interrupts_iff {config : ConfigModule Obj} :
    ¬ Interrupts py config ↔ LevelReads py config ∧
      ∀ names, config.getattr "INSTANCES" .none = .list names →
        (∀ entries, config.getattr "PLUGIN_ARGS" .none ≠ .dict entries) →
          names.foldlM (addKey py) [] ≠ none := by
  unfold Interrupts
  grind

/-- On a validated module `_load_plugin_config` raises for two reasons only. -/
theorem loadPluginConfig_returns_iff {config : ConfigModule Obj}
    (hrequired : requiredFlaws config = [])
    (hflaws : instancesAndArgsFlaws py config = []) :
    (∃ loaded, loadPluginConfig py config = .ok loaded) ↔
      ¬ Interrupts py config := by
  have hrequired := requiredFlaws_eq_nil.mp hrequired
  obtain ⟨hinstances, hargs⟩ := List.append_eq_nil_iff.mp hflaws
  obtain ⟨name, hname⟩ := Option.isSome_iff_exists.mp (hrequired "NAME" (by decide))
  obtain ⟨version, hversion⟩ := Option.isSome_iff_exists.mp (hrequired "VERSION" (by decide))
  obtain ⟨entry, hentry⟩ := Option.isSome_iff_exists.mp (hrequired "PLUGIN_ENTRY" (by decide))
  rw [not_interrupts_iff, ← instancesAndArgs_returns_iff hinstances
    (argsAcceptable_of_flaws_eq_nil hargs)]
  unfold loadPluginConfig convertLogLevel
    attributeOf
  rw [hname, hversion, hentry]
  unfold LevelReads
  rw [← Bool.or_eq_true]
  cases py.prints (config.getattr "LOG_LEVEL" (.str "INFO")) ||
      py.strLacksAttribute (config.getattr "LOG_LEVEL" (.str "INFO")) with
  | false =>
    refine iff_of_false ?_ fun h => Bool.false_ne_true h.1
    rintro ⟨_, h⟩
    cases h
  | true => exact returns_bind_iff.trans (and_iff_right rfl).symm

variable {directory : PluginDirectory Obj} {shared : SharedModule Obj} {config : ConfigModule Obj}

theorem loadSource_of_ok (h : directory.execute (shared.getD .fresh) = (.ok (), config)) :
    loadSource abandon directory shared = (.ok config, some config) := by
  unfold loadSource
  rw [h]

theorem loadPluginShared_of_accepted
    (h : (validatePluginShared py fs abandon directory shared).1 = .ok true) :
    loadPluginShared py fs abandon directory shared =
      (⟨.ok true, some (loadPluginConfigShared py abandon directory none).1⟩,
        (loadPluginConfigShared py abandon directory none).2) := by
  have heq : validatePluginShared py fs abandon directory shared = (.ok true, none) :=
    Prod.ext h rfl
  unfold loadPluginShared
  rw [heq]

theorem loadPluginShared_of_not_accepted
    (h : (validatePluginShared py fs abandon directory shared).1 ≠ .ok true) :
    loadPluginShared py fs abandon directory shared =
      (⟨(validatePluginShared py fs abandon directory shared).1, none⟩, none) := by
  have heq : validatePluginShared py fs abandon directory shared =
    ((validatePluginShared py fs abandon directory shared).1, none) := rfl
  unfold loadPluginShared
  rw [heq]
  generalize (validatePluginShared py fs abandon directory shared).1 = verdict at h ⊢
  rcases verdict with e | ⟨_ | _⟩
  · rfl
  · rfl
  · exact absurd rfl h

@[simp] theorem loadPluginShared_verdict :
    (loadPluginShared py fs abandon directory shared).1.verdict =
      (validatePluginShared py fs abandon directory shared).1 := by
  by_cases h : (validatePluginShared py fs abandon directory shared).1 = .ok true
  · rw [loadPluginShared_of_accepted h, h]
  · rw [loadPluginShared_of_not_accepted h]

theorem validatePluginShared_of_ok (h : directory.execute (shared.getD .fresh) = (.ok (), config)) :
    (validatePluginShared py fs abandon directory shared).1 =
      validatePlugin py fs (some directory.path) (.ok config) := by
  unfold validatePluginShared
  rw [loadSource_of_ok h]

/-- On a validated module the loader comes to the end and removes it, or it does
neither. -/
theorem loadPluginConfigShared_cases
    (h : directory.execute (shared.getD .fresh) = (.ok (), config))
    (hflaws : pluginFlaws py fs (some directory.path) config = []) :
    (¬ Interrupts py config ∧ (loadPluginConfigShared py abandon directory shared).2 = none) ∨
      Interrupts py config ∧
        (loadPluginConfigShared py abandon directory shared).2 = some config := by
  obtain ⟨hrequired, hargs, -⟩ := flaws_of_pluginFlaws_eq_nil hflaws
  have hreturns := loadPluginConfig_returns_iff hrequired hargs
  unfold loadPluginConfigShared
  rw [loadSource_of_ok h]
  dsimp only
  cases hloaded : loadPluginConfig py config with
  | ok loaded => exact .inl ⟨hreturns.mp ⟨loaded, hloaded⟩, rfl⟩
  | error e =>
    refine .inr ⟨?_, rfl⟩
    by_contra hnot
    obtain ⟨loaded, hok⟩ := hreturns.mpr hnot
    rw [hok] at hloaded
    cases hloaded

theorem validatePluginShared_ne_of_raised {e : ConfError Obj}
    (h : directory.execute .fresh = (.error e, config)) :
    (validatePluginShared py fs abandon directory none).1 ≠ .ok true := by
  unfold validatePluginShared loadSource
  rw [Option.getD_none, h]
  exact validatePlugin_of_raised

theorem leavesModule_iff (h : directory.execute .fresh = (.ok (), config)) :
    LeavesModule py fs directory ↔
      pluginFlaws py fs (some directory.path) config = [] ∧ Interrupts py config := by
  refine ⟨?_, fun hboth => ⟨config, h, hboth⟩⟩
  rintro ⟨_, hok, hboth⟩
  rw [h] at hok
  obtain rfl := (Prod.mk.inj hok).2
  exact hboth

/-- A directory that is loaded first leaves no module, or it leaves the one that
its file was executed in. -/
theorem loadPluginShared_none_cases (py : Interpreter Obj) (fs : FileSystem)
    (abandon : Abandon Obj) (directory : PluginDirectory Obj) :
    (¬ LeavesModule py fs directory ∧ (loadPluginShared py fs abandon directory none).2 = none) ∨
    LeavesModule py fs directory ∧ ∃ config, directory.execute .fresh = (.ok (), config) ∧
      pluginFlaws py fs (some directory.path) config = [] ∧
      (loadPluginShared py fs abandon directory none).2 = some config := by
  rcases hexecute : directory.execute .fresh with ⟨e | ⟨⟩, config⟩
  · have hraised : (validatePluginShared py fs abandon directory none).1 ≠ .ok true :=
      validatePluginShared_ne_of_raised hexecute
    refine .inl ⟨?_, by rw [loadPluginShared_of_not_accepted hraised]⟩
    rintro ⟨_, hok, -⟩
    rw [hexecute] at hok
    cases hok
  · have hverdict : (validatePluginShared py fs abandon directory none).1 =
        validatePlugin py fs (some directory.path) (.ok config) :=
      validatePluginShared_of_ok hexecute
    rw [leavesModule_iff hexecute]
    by_cases hflaws : pluginFlaws py fs (some directory.path) config = []
    · have haccepted := hverdict.trans (validatePlugin_accepts_iff_flaws.mpr hflaws)
      have hcases : _ ∨ _ :=
        @loadPluginConfigShared_cases Obj py fs abandon directory none config hexecute hflaws
      rw [loadPluginShared_of_accepted haccepted]
      rcases hcases with ⟨hnot, hnone⟩ | ⟨hinterrupts, hsome⟩
      · exact .inl ⟨fun h => hnot h.2, hnone⟩
      · exact .inr ⟨⟨hflaws, hinterrupts⟩, config, rfl, hflaws, hsome⟩
    · have hrefused : (validatePluginShared py fs abandon directory none).1 ≠ .ok true := by
        rw [hverdict]
        exact mt validatePlugin_accepts_iff_flaws.mp hflaws
      exact .inl ⟨fun h => hflaws h.1, by rw [loadPluginShared_of_not_accepted hrefused]⟩

end Loading

section Sequences

variable {py : Interpreter Obj} {fs : FileSystem} {abandon : Abandon Obj}
  {directory : PluginDirectory Obj} {directories : List (PluginDirectory Obj)}

theorem isolated_cons_iff (h : (loadPluginShared py fs abandon directory none).2 = none) :
    Isolated py fs abandon (directory :: directories) ↔ Isolated py fs abandon directories := by
  have hcons : (loadPluginsShared py fs abandon (directory :: directories) none).1 =
      loadAlone py fs abandon directory ::
        (loadPluginsShared py fs abandon directories
          (loadPluginShared py fs abandon directory none).2).1 := rfl
  unfold Isolated
  rw [hcons, h, List.map_cons, List.cons.injEq, and_iff_right rfl]

theorem isolated_singleton : Isolated py fs abandon [directory] := rfl

/-- The directory once its `beer.conf` is empty. -/
def PluginDirectory.emptied (directory : PluginDirectory Obj) : PluginDirectory Obj :=
  { directory with execute := fun config => (.ok (), config) }

/-- An empty `beer.conf` is refused by itself, and accepted with the names that an
accepted one has left behind. -/
theorem not_isolated_emptied {config : ConfigModule Obj}
    (hflaws : pluginFlaws py fs (some directory.path) config = [])
    (hleft : (loadPluginShared py fs abandon directory none).2 = some config) :
    ¬ Isolated py fs abandon [directory, directory.emptied] := by
  intro hisolated
  have houtcomes : [(loadPluginShared py fs abandon directory none).1,
      (loadPluginShared py fs abandon directory.emptied
        (loadPluginShared py fs abandon directory none).2).1] =
      [loadAlone py fs abandon directory, loadAlone py fs abandon directory.emptied] := hisolated
  have hsame := congrArg LoadOutcome.verdict (List.cons.inj (List.cons.inj houtcomes).2).1
  have hshared : (validatePluginShared py fs abandon directory.emptied (some config)).1 =
      validatePlugin py fs (some directory.path) (.ok config) :=
    validatePluginShared_of_ok rfl
  have halone : (validatePluginShared py fs abandon directory.emptied none).1 =
      validatePlugin py fs (some directory.path) (.ok .fresh) :=
    validatePluginShared_of_ok rfl
  unfold loadAlone at hsame
  rw [hleft, loadPluginShared_verdict, loadPluginShared_verdict, hshared, halone] at hsame
  have haccepted := hsame.symm.trans (validatePlugin_accepts_iff_flaws.mpr hflaws)
  have hfresh := (flaws_of_pluginFlaws_eq_nil (validatePlugin_accepts_iff_flaws.mp haccepted)).1
  cases requiredFlaws_eq_nil.mp hfresh "NAME" (by decide)

/-- Whatever directory comes next, at any point of the sequence, is loaded as it is
alone, exactly when no directory of the sequence leaves its module behind. -/
theorem loadPluginsShared_isolated_iff (py : Interpreter Obj) (fs : FileSystem)
    (abandon : Abandon Obj) (directories : List (PluginDirectory Obj)) :
    (∀ before next, before <+: directories → Isolated py fs abandon (before ++ [next])) ↔
      ∀ directory ∈ directories, ¬ LeavesModule py fs directory := by
  induction directories with
  | nil =>
    refine iff_of_true (fun before next hbefore => ?_) fun _ h => absurd h List.not_mem_nil
    rw [List.prefix_nil.mp hbefore]
    exact isolated_singleton
  | cons directory rest ih =>
    rcases loadPluginShared_none_cases py fs abandon directory with
      ⟨htidy, hnone⟩ | ⟨hleaves, config, -, hflaws, hleft⟩
    · rw [List.forall_mem_cons, and_iff_right htidy, ← ih]
      constructor
      · intro hisolated before next hbefore
        exact (isolated_cons_iff hnone).mp
          (hisolated (directory :: before) next (List.cons_prefix_cons.mpr ⟨rfl, hbefore⟩))
      · intro hisolated before next hbefore
        rcases List.prefix_cons_iff.mp hbefore with rfl | ⟨before, rfl, hrest⟩
        · exact isolated_singleton
        · exact (isolated_cons_iff hnone).mpr (hisolated before next hrest)
    · refine iff_of_false (fun hisolated => ?_) fun htidy =>
        htidy directory List.mem_cons_self hleaves
      exact not_isolated_emptied hflaws hleft
        (hisolated [directory] directory.emptied (List.cons_prefix_cons.mpr ⟨rfl, List.nil_prefix⟩))

def assignments (bindings : List (String × ConfValue Obj)) (config : ConfigModule Obj) :
    Checked Obj Unit × ConfigModule Obj :=
  (.ok (), fun name => (bindings.lookup name).or (config name))

def twoDirectories : FileSystem where
  isdir path := path == "/plugins/foo" || path == "/plugins/bar"
  isfile path := ["/plugins/foo/beer.conf", "/plugins/foo/main.py", "/plugins/bar/beer.conf",
    "/plugins/bar/main.py"].contains path

def nestedInstances : PluginDirectory Empty where
  path := "/plugins/foo"
  execute := assignments [("NAME", .str "foo"), ("VERSION", .str "1.0"),
    ("PLUGIN_ENTRY", .str "main.py"), ("INSTANCES", .list [.list [.str "a"]])]

def defaultArgs : PluginDirectory Empty where
  path := "/plugins/bar"
  execute := assignments [("NAME", .str "bar"), ("VERSION", .str "1.0"),
    ("PLUGIN_ENTRY", .str "main.py"),
    ("PLUGIN_ARGS", .dict [(.str "default", .list [.str "--verbose"])])]

def keepsOldModule : Abandon Empty := fun shared config => shared.map fun _ => config

/-- A plugin that is accepted alone is refused after one whose instance names
cannot be the keys of their arguments. -/
theorem loadPluginsShared_leaks :
    ¬ Isolated plainInterpreter twoDirectories keepsOldModule [nestedInstances, defaultArgs] ∧
      (loadAlone plainInterpreter twoDirectories keepsOldModule defaultArgs).verdict = .ok true ∧
      (loadPluginsShared plainInterpreter twoDirectories keepsOldModule
        [nestedInstances, defaultArgs] none).1.map LoadOutcome.verdict = [.ok true, .ok false] := by
  have halone : [nestedInstances, defaultArgs].map (fun d =>
      (loadAlone plainInterpreter twoDirectories keepsOldModule d).verdict) =
        [.ok true, .ok true] := rfl
  have hshared : (loadPluginsShared plainInterpreter twoDirectories keepsOldModule
      [nestedInstances, defaultArgs] none).1.map LoadOutcome.verdict = [.ok true, .ok false] := rfl
  refine ⟨fun hisolated => ?_, rfl, hshared⟩
  have hsame := congrArg (List.map LoadOutcome.verdict) hisolated
  rw [hshared, List.map_map] at hsame
  have hverdicts := hsame.trans halone
  cases hverdicts

end Sequences
end Bartender
