import Bartender.Plugins.Environment
import Bartender.Plugins.Validation
import Bartender.Python.Values

/-!
# What of the host reaches a plugin

`validate_plugin_environment` keeps the reserved names out of `ENVIRONMENT`. The
environment of a plugin that has passed it is made of the reserved names, of the
listed host variables and of `ENVIRONMENT`, and depends on no other host variable.
-/

namespace Bartender

/-- The loop's tests of one entry, in their order. -/
def validateEnvironmentEntry : PyKey × PyValue → Except Message Unit
  | (.str key, value) =>
    if "BG_".toList.isPrefixOf key.toList then
      .error ⟨"Invalid key: %s specified for plugin environment. The 'BG_' prefix is a " ++
        "special case for beer-garden only environment variables. You will have to pick " ++
        "another name. Sorry for the inconvenience.", [.str key]⟩
    else
      match value with
      | .str _ => .ok ()
      | _ => .error ⟨"Invalid Value: %s specified for plugin environment. This must be a String.",
          [value]⟩
  | (key, _) =>
    .error ⟨"Invalid Key: %s specified for plugin environment. This must be a String.",
      [key.toValue]⟩

/-- `validate_plugin_environment`, on a configuration that may be missing and
its `ENVIRONMENT`, if it has one. -/
def validatePluginEnvironment : Option (Option PyValue) → Except Message Bool
  | none => .error ⟨"Configuration is None. This is not allowed.", []⟩
  | some none => .ok true
  | some (some (.dict env)) => do
    forM env validateEnvironmentEntry
    pure true
  | some (some env) =>
    .error ⟨"Invalid ENVIRONMENT specified: %s. This argument must be a dictionary.", [env]⟩

/-- An `ENVIRONMENT` of strings, as a value of the configuration. -/
def environmentValue (environment : List (String × String)) : PyValue :=
  .dict (environment.map fun entry => (.str entry.1, .str entry.2))

theorem validateEnvironmentEntry_ok_iff {entry : PyKey × PyValue} :
    validateEnvironmentEntry entry = .ok () ↔
      ∃ key value, entry = (.str key, .str value) ∧
        "BG_".toList.isPrefixOf key.toList = false := by
  constructor
  · intro hok
    unfold validateEnvironmentEntry at hok
    split at hok
    · rename_i key value
      split_ifs at hok with hreserved
      split at hok
      · rename_i text
        exact ⟨key, text, rfl, Bool.eq_false_of_not_eq_true hreserved⟩
      · cases hok
    · cases hok
  · rintro ⟨key, value, rfl, hreserved⟩
    simp only [validateEnvironmentEntry]
    rw [hreserved]
    rfl

theorem forM_validateEnvironmentEntry_cons {first : PyKey × PyValue} {rest : PyDict} :
    forM (first :: rest) validateEnvironmentEntry = .ok () ↔
      validateEnvironmentEntry first = .ok () ∧ forM rest validateEnvironmentEntry = .ok () := by
  rw [List.forM_cons]
  cases validateEnvironmentEntry first <;> simp [bind, Except.bind]

theorem forM_validateEnvironmentEntry {env : PyDict} :
    forM env validateEnvironmentEntry = .ok () ↔
      ∃ environment : List (String × String),
        env = environment.map (fun entry => (.str entry.1, .str entry.2)) ∧
          ValidEnvironment environment := by
  induction env with
  | nil =>
    constructor
    · intro _
      exact ⟨[], rfl, fun entry hentry => absurd hentry List.not_mem_nil⟩
    · intro _
      rfl
  | cons first rest ih =>
    rw [forM_validateEnvironmentEntry_cons, ih, validateEnvironmentEntry_ok_iff]
    constructor
    · rintro ⟨⟨key, value, rfl, hkey⟩, environment, rfl, hvalid⟩
      exact ⟨(key, value) :: environment, rfl, List.forall_mem_cons.mpr ⟨hkey, hvalid⟩⟩
    · rintro ⟨environment, henv, hvalid⟩
      cases environment with
      | nil => cases henv
      | cons entry environment =>
        cases henv
        obtain ⟨hkey, hrest⟩ := List.forall_mem_cons.mp hvalid
        exact ⟨⟨entry.1, entry.2, rfl, hkey⟩, environment, rfl, hrest⟩

theorem validatePluginEnvironment_dict {env : PyDict} :
    validatePluginEnvironment (some (some (.dict env))) = .ok true ↔
      forM env validateEnvironmentEntry = .ok () := by
  have hloop : validatePluginEnvironment (some (some (.dict env))) =
      forM env validateEnvironmentEntry >>= fun _ => pure true := rfl
  rw [hloop]
  cases forM env validateEnvironmentEntry <;> simp [bind, Except.bind, pure, Except.pure]

theorem validatePluginEnvironment_ok_iff {env : PyValue} :
    validatePluginEnvironment (some (some env)) = .ok true ↔
      ∃ environment, env = environmentValue environment ∧ ValidEnvironment environment := by
  cases env with
  | dict env =>
    rw [validatePluginEnvironment_dict, forM_validateEnvironmentEntry]
    simp [environmentValue]
  | _ => simp [validatePluginEnvironment, environmentValue]

theorem validEnvironment_of_validated {environment : List (String × String)}
    (h : validatePluginEnvironment (some (some (environmentValue environment))) = .ok true) :
    ValidEnvironment environment := by
  obtain ⟨environment', hsame, hvalid⟩ := validatePluginEnvironment_ok_iff.mp h
  have hinjective : Function.Injective
      fun entry : String × String => ((.str entry.1, .str entry.2) : PyKey × PyValue) := by
    intro a b hab
    simpa [Prod.ext_iff] using hab
  have hmap := PyValue.dict.inj hsame
  rw [hinjective.list_map hmap]
  exact hvalid

/-- A key as a configuration holds it, where numbers are objects. -/
def PyKey.toConf : PyKey → ConfValue PyValue
  | .none => .none
  | .str s => .str s
  | key => .other key.toValue

mutual

def PyValue.toConf : PyValue → ConfValue PyValue
  | .none => .none
  | .str s => .str s
  | .list values => .list (listToConf values)
  | .dict entries => .dict (dictToConf entries)
  | value => .other value

def PyValue.listToConf : List PyValue → List (ConfValue PyValue)
  | [] => []
  | value :: values => value.toConf :: listToConf values

def PyValue.dictToConf : PyDict → List (ConfValue PyValue × ConfValue PyValue)
  | [] => []
  | (key, value) :: entries => (key.toConf, value.toConf) :: dictToConf entries

end

section Validated

open LocalPluginValidator

variable {py : Interpreter PyValue} {fs : FileSystem} {config : ConfigModule PyValue}

theorem environmentEntryFlaws_toConf {key : PyKey} {value : PyValue} :
    environmentEntryFlaws (key.toConf, value.toConf) = [] ↔
      validateEnvironmentEntry (key, value) = .ok () := by
  rw [environmentEntryFlaws_eq_nil, validateEnvironmentEntry_ok_iff]
  cases key <;> cases value <;> simp [PyKey.toConf, PyValue.toConf, ConfValue.isStr, startsWith]

theorem flatMap_environmentEntryFlaws_toConf {entries : PyDict} :
    (PyValue.dictToConf entries).flatMap environmentEntryFlaws = [] ↔
      forM entries validateEnvironmentEntry = .ok () := by
  induction entries with
  | nil => simp [PyValue.dictToConf, pure, Except.pure]
  | cons entry entries ih =>
    obtain ⟨key, value⟩ := entry
    rw [forM_validateEnvironmentEntry_cons, PyValue.dictToConf, List.flatMap_cons,
      List.append_eq_nil_iff, ih, environmentEntryFlaws_toConf]

theorem validatePluginEnvironment_toConf {env : PyValue}
    (h : config "ENVIRONMENT" = some env.toConf) :
    LocalPluginValidator.validatePluginEnvironment py config = .ok () ↔
      Bartender.validatePluginEnvironment (some (some env)) = .ok true := by
  rw [(follows_environment config).eq_ok_iff, environmentFlaws, h]
  cases env with
  | dict entries =>
    rw [validatePluginEnvironment_dict]
    exact flatMap_environmentEntryFlaws_toConf
  | _ => simp [PyValue.toConf, Bartender.validatePluginEnvironment]

theorem validEnvironment_of_validatePlugin {path : String} {environment : List (String × String)}
    (h : config "ENVIRONMENT" = some (environmentValue environment).toConf)
    (haccepted : validatePlugin py fs (some path) (.ok config) = .ok true) :
    ValidEnvironment environment := by
  have hflaws := flaws_of_pluginFlaws_eq_nil (validatePlugin_accepts_iff_flaws.mp haccepted)
  have hpassed : LocalPluginValidator.validatePluginEnvironment py config = .ok () :=
    (follows_environment config).eq_ok_iff.mpr hflaws.2.2
  exact validEnvironment_of_validated ((validatePluginEnvironment_toConf h).mp hpassed)

end Validated

theorem keys_addHostVar {osEnviron env : List (String × String)} {envVar name : String}
    (h : name ∈ InsertionDict.keys (addHostVar osEnviron env envVar)) :
    name ∈ InsertionDict.keys env ∨ name = envVar := by
  unfold addHostVar at h
  split_ifs at h
  · exact .inl h
  · exact InsertionDict.mem_keys_set h

theorem keys_foldl_addHostVar {osEnviron env : List (String × String)}
    {hostEnvVars : List String} {name : String}
    (h : name ∈ InsertionDict.keys (hostEnvVars.foldl (addHostVar osEnviron) env)) :
    name ∈ InsertionDict.keys env ∨ name ∈ hostEnvVars := by
  induction hostEnvVars generalizing env with
  | nil => exact .inl h
  | cons envVar rest ih =>
    rcases ih h with hkey | hrest
    · rcases keys_addHostVar hkey with hold | rfl
      · exact .inl hold
      · exact .inr List.mem_cons_self
    · exact .inr (List.mem_cons_of_mem _ hrest)

theorem keys_foldl_addVariable {chars : CharClass} {env environment : List (String × String)}
    {name : String}
    (h : name ∈ InsertionDict.keys (environment.foldl (addVariable chars) env)) :
    name ∈ InsertionDict.keys env ∨ name ∈ InsertionDict.keys environment := by
  induction environment generalizing env with
  | nil => exact .inl h
  | cons entry rest ih =>
    rcases ih h with hkey | hrest
    · rcases InsertionDict.mem_keys_set hkey with hold | rfl
      · exact .inl hold
      · exact .inr List.mem_cons_self
    · exact .inr (List.mem_cons_of_mem _ hrest)

/-- The expansion with the argument it has in the source: without a map the
names are looked up in a copy of the whole host environment. -/
def expandWithDefault (chars : CharClass) (osEnviron : List (String × String)) (s : String)
    (envCopy : Option (List (String × String))) : String :=
  EnvHelp.expandStringWithEnvironmentVar chars s (envCopy.getD osEnviron)

theorem addVariable_eq (chars : CharClass) (osEnviron env : List (String × String))
    (entry : String × String) :
    addVariable chars env entry =
      InsertionDict.set env entry.1 (expandWithDefault chars osEnviron entry.2 (some env)) := rfl

theorem generatePluginEnvironment_congr {chars : CharClass} {hostEnvVars : List String}
    {osEnviron osEnviron' : List (String × String)} {plugin : LocalPluginRunner}
    (hagree : ∀ envVar ∈ hostEnvVars,
      InsertionDict.get? osEnviron envVar = InsertionDict.get? osEnviron' envVar) :
    generatePluginEnvironment chars hostEnvVars osEnviron plugin =
      generatePluginEnvironment chars hostEnvVars osEnviron' plugin := by
  have hhost : hostEnvVars.foldl (addHostVar osEnviron) plugin.reservedEnvironment =
      hostEnvVars.foldl (addHostVar osEnviron') plugin.reservedEnvironment := by
    refine List.foldl_ext _ _ _ ?_
    intro env envVar henvVar
    unfold addHostVar
    rw [hagree envVar henvVar]
  unfold generatePluginEnvironment
  rw [hhost]

theorem reservedEnvironment_distinctKeys (plugin : LocalPluginRunner) :
    InsertionDict.DistinctKeys plugin.reservedEnvironment := by
  have hkeys : InsertionDict.keys plugin.reservedEnvironment =
      InsertionDict.keys (singlePlugin "" []).reservedEnvironment := rfl
  unfold InsertionDict.DistinctKeys
  rw [hkeys]
  decide

theorem isPrefixOf_of_reserved {plugin : LocalPluginRunner} {entry : String × String}
    (h : entry ∈ plugin.reservedEnvironment) : "BG_".toList.isPrefixOf entry.1.toList = true := by
  have hall : ∀ name ∈ InsertionDict.keys plugin.reservedEnvironment,
      "BG_".toList.isPrefixOf name.toList = true := by
    show ∀ name ∈ InsertionDict.keys (singlePlugin "" []).reservedEnvironment, _
    decide
  exact hall entry.1 (List.mem_map_of_mem h)

/-- With a validated `ENVIRONMENT`, the reserved names have the runner's own
values, nothing is there but the reserved names, the listed host variables and
`ENVIRONMENT`, and of the host environment only the listed variables matter. -/
theorem generatePluginEnvironment_isolated (chars : CharClass) (hostEnvVars : List String)
    (osEnviron : List (String × String)) (plugin : LocalPluginRunner)
    (hvalidated :
      validatePluginEnvironment (some (some (environmentValue plugin.environment))) = .ok true) :
    (∀ entry ∈ plugin.reservedEnvironment,
      InsertionDict.get? (generatePluginEnvironment chars hostEnvVars osEnviron plugin) entry.1 =
        some entry.2) ∧
    (∀ name ∈ InsertionDict.keys (generatePluginEnvironment chars hostEnvVars osEnviron plugin),
      name ∈ InsertionDict.keys plugin.reservedEnvironment ∨ name ∈ hostEnvVars ∨
        name ∈ InsertionDict.keys plugin.environment) ∧
    ∀ osEnviron' : List (String × String),
      (∀ envVar ∈ hostEnvVars,
        InsertionDict.get? osEnviron envVar = InsertionDict.get? osEnviron' envVar) →
      generatePluginEnvironment chars hostEnvVars osEnviron plugin =
        generatePluginEnvironment chars hostEnvVars osEnviron' plugin := by
  have hvalid := validEnvironment_of_validated hvalidated
  refine ⟨fun entry hentry => ?_, fun name hname => ?_, fun osEnviron' hagree => ?_⟩
  · have hown : InsertionDict.get? plugin.reservedEnvironment entry.1 = some entry.2 :=
      (reservedEnvironment_distinctKeys plugin).get?_eq hentry
    exact get?_generatePluginEnvironment hvalid (isPrefixOf_of_reserved hentry) hown hostEnvVars
      osEnviron
  · rcases keys_foldl_addVariable hname with hkey | hkey
    · rcases keys_foldl_addHostVar hkey with hreserved | hhost
      · exact .inl hreserved
      · exact .inr (.inl hhost)
    · exact .inr (.inr hkey)
  · exact generatePluginEnvironment_congr hagree

/-- A listed variable with a reserved name, and one that is not listed but
occurs in `ENVIRONMENT`. -/
theorem generatePluginEnvironment_isolated_foo :
    let plugin := { singlePlugin "foo" [] with environment := [("TOKEN", "$HOME:$SECRET")] }
    let osEnviron := [("HOME", "/root"), ("BG_NAME", "bar"), ("SECRET", "hidden")]
    InsertionDict.get? (generatePluginEnvironment .ascii ["HOME", "BG_NAME"] osEnviron plugin)
        "BG_NAME" = some "foo" ∧
      generatePluginEnvironment .ascii ["HOME", "BG_NAME"] osEnviron plugin =
        generatePluginEnvironment .ascii ["HOME", "BG_NAME"] [("HOME", "/root"), ("BG_NAME", "bar")]
          plugin := by
  intro plugin osEnviron
  obtain ⟨hown, -, hsame⟩ :=
    generatePluginEnvironment_isolated .ascii ["HOME", "BG_NAME"] osEnviron plugin rfl
  exact ⟨hown ("BG_NAME", "foo") List.mem_cons_self, hsame _ (by decide)⟩

end Bartender
