import Bartender.Requests.Parameters

/-!
# The request validator

`RequestValidator`, function by function. What it calls outside the process
(the database, the session used for choices and the command client) is a
record of services that may change a state of their own. The validator reads
the request while the parameters are checked and writes the request's command
and output type when it looks the command up.
-/

namespace Bartender

abbrev Validation (σ : Type) := StateT σ (Except PyError)

/-- A request reference in a choices string: what to call, and with which parameters. -/
structure ParsedChoices where
  target : String
  args : List (String × String)

/-- The arguments of `send_bg_request`. -/
structure BgRequest where
  command : String
  systemName : PyValue
  systemVersion : PyValue
  instanceName : PyValue
  parameters : PyDict

structure Services (σ : Type) where
  findUnique : String → String → Validation σ (Option SystemDocument)
  parseUrl : PyValue → Except PyError ParsedChoices
  parseFunc : PyValue → Except PyError ParsedChoices
  sessionGet : String → PyDict → Validation σ PyValue
  sendBgRequest : BgRequest → Validation σ PyValue
  compile : String → Except PyError (String → Bool)

/-- No systems, and patterns that match everything. -/
def quietServices : Services Unit where
  findUnique _ _ := pure none
  parseUrl _ := .error .keyError
  parseFunc _ := .error .keyError
  sessionGet _ _ := throw .keyError
  sendBgRequest _ := throw .keyError
  compile _ := .ok fun _ => true

/-- `raise ModelValidationError(format % arguments)`. -/
def invalid {α : Type} (format : String) (arguments : List PyValue) : Except PyError α :=
  .error (.modelValidationError ⟨format, arguments⟩)

variable {σ : Type} (services : Services σ) (request : Request)

/-- `map_param_values`: references are resolved in the request's top-level parameters. -/
def mapParamValues : List (String × String) → PyDict → Except PyError PyDict
  | [], paramMap => .ok paramMap
  | (name, ref) :: rest, paramMap =>
    if ref == "instance_name" then
      mapParamValues rest (InsertionDict.set paramMap (.str name) (.str request.instanceName))
    else
      match InsertionDict.get? request.parameters (.str ref) with
      | some value => mapParamValues rest (InsertionDict.set paramMap (.str name) value)
      | none => .error .keyError

/-- The choices of a static dictionary, under the value of the reference. -/
def dictionaryChoices (info : ParameterInfo) (details entries : PyDict) :
    Except PyError PyValue := do
  let keyValue ←
    match (InsertionDict.get? details (.str "key_reference")).getD .none with
    | .none =>
      invalid
        ("Unable to validate choices for parameter '%s' - Choices" ++
          " with a dictionary value must specify a key_reference") [.str info.key]
    | .str "instance_name" => pure (.str request.instanceName)
    | key => do
      let key ← key.toKey
      let value := (InsertionDict.get? request.parameters key).getD .none
      pure (if value.truth then value else .str "null")
  let key ← keyValue.toKey
  match (InsertionDict.get? entries key).getD .none with
  | .none =>
    invalid
      ("Unable to validate choices for parameter '%s' - Choices" ++
        " dictionary doesn't contain an entry with key '%s'") [.str info.key, keyValue]
  | rawAllowed => pure rawAllowed

def staticChoices (info : ParameterInfo) (choices : Choices) : Except PyError PyValue :=
  match choices.value with
  | .list values => pure (.list values)
  | .dict entries => dictionaryChoices request info choices.details entries
  | _ =>
    invalid
      ("Unable to validate choices for parameter '%s' - Choices value" ++
        " must be a list or dictionary ") [.str info.key]

def urlChoices (choices : Choices) : Validation σ PyValue := do
  let parsed ← services.parseUrl choices.value
  let queryParams ← mapParamValues request parsed.args []
  services.sessionGet parsed.target queryParams

/-- The request that asks for the choices. -/
def choicesRequest (info : ParameterInfo) (choices : Choices) : Except PyError BgRequest :=
  match choices.value with
  | .str _ => do
    let parsed ← services.parseFunc choices.value
    let arguments ← mapParamValues request parsed.args []
    pure ⟨parsed.target, .str request.system, .str request.systemVersion,
      .str request.instanceName, arguments⟩
  | .dict entries => do
    let command ←
      match InsertionDict.get? entries (.str "command") with
      | some command => pure command
      | none => .error .keyError
    let parsed ← services.parseFunc command
    let arguments ← mapParamValues request parsed.args []
    pure ⟨parsed.target, (InsertionDict.get? entries (.str "system")).getD .none,
      (InsertionDict.get? entries (.str "version")).getD .none,
      (InsertionDict.get? entries (.str "instance_name")).getD (.str "default"), arguments⟩
  | _ =>
    invalid
      ("Unable to validate choices for parameter '%s' - Choices value" ++
        " must be a string or dictionary ") [.str info.key]

def commandChoices (info : ParameterInfo) (choices : Choices) : Validation σ PyValue := do
  let bgRequest ← choicesRequest services request info choices
  let rawAllowed ← services.sendBgRequest bgRequest
  match rawAllowed with
  | .list [] =>
    invalid
      ("Unable to validate choices for parameter '%s' - Result " ++
        "of choices query was empty list") [.str info.key]
  | .list values => pure (.list values)
  | _ =>
    invalid
      ("Unable to validate choices for parameter '%s' - Result of " ++
        " choices query must be a list") [.str info.key]

/-- The raw choices, however they are obtained. -/
def rawChoices (info : ParameterInfo) (choices : Choices) : Validation σ PyValue :=
  match choices.type with
  | .static => staticChoices request info choices
  | .url => urlChoices services request choices
  | .command => commandChoices services request info choices
  | .other _ =>
    invalid
      ("Unable to validate choices for parameter '%s' - No valid type " ++
        "specified (valid types are %s)") [.str info.key, choicesTypes]

/-- A choice given with a display text counts as its value. -/
def collapseChoice : PyValue → Except PyError PyValue
  | .dict entries =>
    match InsertionDict.get? entries (.str "value") with
    | some value => .ok value
    | none => .error .keyError
  | allowed => .ok allowed

def checkChoice (info : ParameterInfo) (allowedValues : List PyValue) (value : PyValue) :
    Except PyError Unit :=
  if value.isIn allowedValues then .ok ()
  else
    invalid
      ("Value '%s' is not a valid choice for parameter with key '%s'. " ++
        "Valid choices are: %s") [value, .str info.key, .list allowedValues]

def checkChoices (info : ParameterInfo) (value rawAllowed : PyValue) : Except PyError Unit := do
  let allowedValues ← (← rawAllowed.iter).mapM collapseChoice
  if info.multi then (← value.iter).forM (checkChoice info allowedValues)
  else checkChoice info allowedValues value

def validateValueInChoices (value : PyValue) (info : ParameterInfo) : Validation σ Unit :=
  if value.isNone || info.optional then pure ()
  else
    match info.choices with
    | none => pure ()
    | some choices =>
      if choices.strict then do
        checkChoices info value (← rawChoices services request info choices)
      else pure ()

/-- `len`, for the values that are sequences. -/
def PyValue.len? : PyValue → Option ℤ
  | .str s => some s.toList.length
  | .list values => some values.length
  | _ => Option.none

def validateMaximum (value : PyValue) (info : ParameterInfo) : Except PyError Unit :=
  if value.isNone || info.optional then .ok ()
  else
    match info.maximum with
    | none => .ok ()
    | some maximum =>
      -- a maximum of zero counts as absent
      if maximum = 0 then .ok ()
      else
        match value.len?, value.number? with
        | some length, _ =>
          if maximum < length then
            invalid
              ("Length %s is greater than the maximum allowed length (%s) " ++
                "for parameter %s") [.int length, .int maximum, .str info.key]
          else .ok ()
        | none, some number =>
          if (Number.ofInt maximum).lt number then
            invalid
              ("Value %s is greater than the maximum allowed value (%s) " ++
                "for parameter %s") [value, .int maximum, .str info.key]
          else .ok ()
        | none, none => .error .typeError

def validateMinimum (value : PyValue) (info : ParameterInfo) : Except PyError Unit :=
  if value.isNone || info.optional then .ok ()
  else
    match info.minimum with
    | none => .ok ()
    | some minimum =>
      if minimum = 0 then .ok ()
      else
        match value.len?, value.number? with
        | some length, _ =>
          if length < minimum then
            invalid
              ("Length %s is less than the minimum allowed length (%s) " ++
                "for parameter %s") [.int length, .int minimum, .str info.key]
          else .ok ()
        | none, some number =>
          if number.lt (.ofInt minimum) then
            invalid
              ("Value %s is less than the minimum allowed value (%s) " ++
                "for parameter %s") [value, .int minimum, .str info.key]
          else .ok ()
        | none, none => .error .typeError

def validateRegex (value : PyValue) (info : ParameterInfo) : Except PyError Unit :=
  if value.isNone || info.optional then .ok ()
  else
    match info.regex with
    | none => .ok ()
    | some regex =>
      if regex = "" then .ok ()
      else do
        let pattern ← services.compile regex
        match value with
        | .str s =>
          if pattern s then .ok ()
          else invalid "Value %s does not match regular expression %s" [value, .str regex]
        | _ => .error .typeError

def validateNoExtraRequestParameterKeys (requestParameters : PyDict)
    (commandParameters : List Parameter) : Except PyError Unit :=
  let validKeys := declaredKeys commandParameters
  match (InsertionDict.keys requestParameters).find? fun key => !validKeys.contains key with
  | none => .ok ()
  | some key =>
    invalid "Unknown key '%s' provided in the parameters. Valid Keys are: %s"
      [key.toValue, .list (validKeys.map PyKey.toValue)]

def validateRequiredParameterIsIncludedInRequest (info : ParameterInfo)
    (requestParameters : PyDict) : Except PyError Unit :=
  if !info.optional && !InsertionDict.contains requestParameters (.str info.key) &&
      info.default.isNone then
    invalid "Required key '%s' not provided in request. Parameters are: %s"
      [.str info.key, .dict request.parameters]
  else .ok ()

/-- `except TypeError` and `except ValueError`. -/
def catchConversion {α : Type} (info : ParameterInfo) (x : Validation σ α) : Validation σ α :=
  fun s =>
    match x s with
    | .error .typeError | .error .valueError =>
      invalid "Value for key: %s is not the correct type. Should be: %s"
        [.str info.key, .str info.type.name]
    | result => result

/-- The conversions that do not look at nested parameters. -/
def convertPlain (type : ParameterType) (value : PyValue) : Except PyError PyValue :=
  match type with
  | .string =>
    match value with
    | .str s => .ok (.str s)
    | _ => .error .typeError
  | .integer => do
    let n ← pyInt value
    let x ← pyFloat value
    if (Number.ofInt n).eq (.ofDouble x) then pure (.int n) else .error .typeError
  | .float => do
    let x ← pyFloat value
    pure (.float x)
  | .any => .ok value
  | .boolean => if value.isIn [.bool true, .bool false] then .ok value else .error .typeError
  | .dictionary => do
    let d ← value.toDict
    pure (.dict d)
  | .date => do
    let n ← pyInt value
    pure (.int n)
  | .dateTime => do
    let n ← pyInt value
    pure (.int n)
  | .other _ =>
    invalid "Unknown type for parameter. Please contact a system administrator." []

/-- The value a parameter is given: the supplied one, even null, or the default. -/
def suppliedValue (info : ParameterInfo) (requestParameters : PyDict) : PyValue :=
  (InsertionDict.get? requestParameters (.str info.key)).getD info.default

/-- The supplied value or else the default, converted, element by element for
a multi parameter. -/
def extractParameterValueFromRequest (convert : PyValue → Validation σ PyValue)
    (info : ParameterInfo) (requestParameters : PyDict) : Validation σ PyValue :=
  if (suppliedValue info requestParameters).isNone && info.nullable then pure .none
  else if info.multi then
    match suppliedValue info requestParameters with
    | .list requestValues => do
      let valueToReturn ← requestValues.mapM convert
      pure (.list valueToReturn)
    | _ =>
      invalid "%s was specified as a list, but was not provided as such" [.str info.key]
  else convert (suppliedValue info requestParameters)

mutual

def validateParameterBasedOnType : Parameter → PyValue → Validation σ PyValue
  | ⟨info, parameters⟩, value =>
    catchConversion info <|
      if value.isNone && !info.nullable then
        invalid
          ("There is no value for parameter '%s' " ++
            "and this field is not nullable.") [.str info.key]
      else if info.type = .dictionary ∧ parameters ≠ [] then do
        let dictValue ← value.toDict
        validateNoExtraRequestParameterKeys dictValue parameters
        let saved ← saveParameters parameters dictValue []
        pure (.dict saved)
      else convertPlain info.type value

/-- The loop of `get_and_validate_parameters`. -/
def saveParameters : List Parameter → PyDict → PyDict → Validation σ PyDict
  | [], _, parametersToSave => pure parametersToSave
  | p :: rest, requestParameters, parametersToSave => do
    validateRequiredParameterIsIncludedInRequest request p.info requestParameters
    let extractedValue ← extractParameterValueFromRequest
      (fun v => validateParameterBasedOnType p v) p.info requestParameters
    validateValueInChoices services request extractedValue p.info
    validateMaximum extractedValue p.info
    validateMinimum extractedValue p.info
    validateRegex services extractedValue p.info
    saveParameters rest requestParameters
      (InsertionDict.set parametersToSave (.str p.info.key) extractedValue)

end

/-- `get_and_validate_parameters` once the command is known. -/
def validateParameters (commandParameters : List Parameter) (requestParameters : PyDict) :
    Validation σ PyDict := do
  validateNoExtraRequestParameterKeys requestParameters commandParameters
  saveParameters services request commandParameters requestParameters []

/-- Returns the system, or raises. -/
def getAndValidateSystem : Validation σ SystemDocument := do
  match ← services.findUnique request.system request.systemVersion with
  | none =>
    invalid "Could not find System named '%s' matching version '%s'"
      [.str request.system, .str request.systemVersion]
  | some system =>
    if request.instanceName ∈ system.instanceNames then pure system
    else
      invalid "Could not find instance with name '%s' in system '%s'"
        [.str request.instanceName, .str system.name]

def systemFor (system : Option SystemDocument) : Validation σ SystemDocument :=
  match system with
  | some system => pure system
  | none => getAndValidateSystem services request

/-- Fills in the request's command type, or checks it against the command's. -/
def matchCommandType (command : Command) : Except PyError Request :=
  match request.commandType with
  | none => .ok { request with commandType := some command.commandType }
  | some commandType =>
    if command.commandType != commandType then
      invalid
        ("Command Type for Request was %s but the command specified " ++
          "the type as %s") [.str commandType, .str command.commandType]
    else .ok request

def matchOutputType (command : Command) : Except PyError Request :=
  match request.outputType with
  | none => .ok { request with outputType := some command.outputType }
  | some outputType =>
    if command.outputType != outputType then
      invalid
        ("Output Type for Request was %s but the command specified " ++
          "the type as %s") [.str outputType, .str command.outputType]
    else .ok request

/-- The first command of that name, or raises. -/
def findCommand (system : SystemDocument) : Except PyError Command :=
  match request.command with
  | none => invalid "Could not validate command because it was None." []
  | some name =>
    match system.commands.find? fun command => command.name == name with
    | some command => .ok command
    | none =>
      invalid "No Command with name: %s could be found. Valid Commands for %s are: %s"
        [.str name, .str system.name, .list (system.commands.map fun c => .str c.name)]

/-- The command, and the request with its types filled in. -/
def getAndValidateCommandForSystem (system : Option SystemDocument) :
    Validation σ (Command × Request) := do
  let system ← systemFor services request system
  let command ← findCommand request system
  let request ← matchCommandType request command
  let request ← matchOutputType request command
  pure (command, request)

/-- The command given to `get_and_validate_parameters`, looked up when there is none. -/
def commandFor (command : Option Command) : Validation σ (Command × Request) :=
  match command with
  | some command => pure (command, request)
  | none => getAndValidateCommandForSystem services request none

def getAndValidateParameters (command : Option Command) : Validation σ (PyDict × Request) := do
  let (command, request) ← commandFor services request command
  let saved ← validateParameters services request command.parameters request.parameters
  pure (saved, request)

def validateRequest : Validation σ Request := do
  let system ← getAndValidateSystem services request
  let (command, request) ← getAndValidateCommandForSystem services request (some system)
  let (saved, request) ← getAndValidateParameters services request (some command)
  pure { request with parameters := saved }

end Bartender
