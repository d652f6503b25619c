import AiPlatform.ModelCatalogue

/-!
`ModelRegistryService` of `app/services/model_registry.py`. What Ollama answers,
what a manifest says and what a scan of a directory finds come with the request.
A manifest is read as far as the service reads it: a key that may be null is an
optional value inside an optional one.
-/

namespace AiPlatform.Serving

open Agents (Json Dict strip truthy)
open Deployments (ModelStatus ModelDeployment DeploymentState externalRuntimes)

/-- `ModelType` -/
def modelTypes : List String :=
  ["LLM", "EMBEDDING", "RERANKER", "ASR", "TTS", "OCR", "VISION", "MULTIMODAL"]

/-- `_PUBLIC_AI_HOSTS` -/
def publicAiHosts : List String :=
  ["openai.com", "openai.azure.com", "anthropic.com", "elevenlabs.io", "googleapis.com",
    "google.com", "cognitiveservices.azure.com", "azure.com", "amazonaws.com", "deepgram.com",
    "assemblyai.com", "speechmatics.com", "huggingface.co"]

def publicHost (host : String) : Bool :=
  publicAiHosts.any fun domain => host = domain || Urls.hasSuffix ("." ++ domain) host

def endpointHost (settings : Settings) (endpointUrl : String) : Except Refusal (Option String) :=
  let netloc := Urls.authority
    (if Urls.hasInfix "://" endpointUrl then endpointUrl else "http://" ++ endpointUrl)
  if Urls.bracketed netloc ∧ settings.validAuthority netloc then
    .ok (Urls.hostname settings.lower netloc)
  else .error (.raised "ValueError")

def refusePublicEndpoint (settings : Settings) (endpointUrl : String) : Except Refusal Unit := do
  match ← endpointHost settings endpointUrl with
  | none =>
      .error (.app (validationError s!"'{endpointUrl}' is not a URL the platform can call."
        [("field", "endpoint_url")]))
  | some host =>
      raiseIf (publicHost (settings.lower host)) (.app (validationError
        (s!"{host} is a public cloud service. This platform runs its models on the premises " ++
          "and is built to work with no Internet at all (Rule 4), so an endpoint must be a " ++
          "host inside your own network.") [("field", "endpoint_url"), ("host", host)]))

/-- The arguments of `register_model`. -/
structure ModelSpec where
  name : String
  displayName : String
  type : String
  storagePath : String
  runtime : String
  version : String
  architecture : Option String
  parameterCount : Option Nat
  quantization : Option String
  contextLength : Option Nat
  requiredGpuMemoryMib : Option Nat
  minGpuCount : Nat
  description : Option String
  endpointUrl : Option String
  metadata : Dict

def ModelSpec.external (spec : ModelSpec) : Bool := externalRuntimes.contains spec.runtime

/-- `if endpoint_url` -/
def given (endpointUrl : Option String) : Bool := endpointUrl.any truthy

/-- The row that `register_model` adds. -/
def ModelSpec.model (spec : ModelSpec) (id : Nat) : Model where
  id := id
  name := spec.name
  displayName := spec.displayName
  version := spec.version
  type := spec.type
  architecture := spec.architecture
  parameterCount := spec.parameterCount
  quantization := spec.quantization
  contextLength := spec.contextLength
  storagePath := spec.storagePath
  runtime := spec.runtime
  endpointUrl := spec.endpointUrl
  requiredGpuMemoryMib := spec.requiredGpuMemoryMib
  minGpuCount := spec.minGpuCount
  status := if spec.external then .available else .registered
  statusDetail :=
    if spec.external then
      let endpoint := spec.endpointUrl.getD ""
      some (s!"Served by an external {spec.runtime} runtime at {endpoint}. The platform " ++
        "routes to it but does not manage its lifecycle.")
    else none
  description := spec.description
  metadata := spec.metadata

/-- The checks of `register_model` on where the model is served. -/
def checkEndpoint (settings : Settings) (spec : ModelSpec) : Except Refusal Unit :=
  if spec.external then refusePublicEndpoint settings (spec.endpointUrl.getD "") else .ok ()

def registerModel (settings : Settings) (catalogue : Catalogue) (spec : ModelSpec) :
    Except Refusal (Model × Catalogue) := do
  raiseIf (catalogue.modelByName spec.name).isSome (.app (conflictError
    s!"A model named '{spec.name}' is already registered." [("field", "name")]))
  raiseIf (spec.type ∉ modelTypes) (.app (validationError s!"Unknown model type '{spec.type}'."
    [("allowed", String.intercalate ", " (modelTypes.insertionSort (· ≤ ·)))]))
  raiseIf (spec.external ∧ given spec.endpointUrl = false) (.app (validationError
    (s!"The '{spec.runtime}' runtime is external — the platform points at it rather than " ++
      "starting it, so it needs an endpoint_url saying where the model is already served.")
    [("field", "endpoint_url")]))
  raiseIf (given spec.endpointUrl ∧ spec.external = false) (.app (validationError
    ("endpoint_url is only meaningful for an external runtime (external, ollama); " ++
      s!"'{spec.runtime}' is deployed by the platform, which decides the address itself.")
    [("field", "endpoint_url")]))
  checkEndpoint settings spec
  raiseIf (spec.external = false ∧ strip spec.storagePath = "") (.app (validationError
    (s!"The '{spec.runtime}' runtime is started by the platform, so it needs a storage_path " ++
      "saying where the weights are on the node.") [("field", "storage_path")]))
  let model := spec.model catalogue.nextId
  return (model,
    { catalogue with models := catalogue.models ++ [model], nextId := catalogue.nextId + 1 })

def Catalogue.amendModel (catalogue : Catalogue) (id : Nat) (change : Model → Model) :
    Catalogue :=
  { catalogue with models := Rows.amend Model.id id change catalogue.models }

/-- `dict.get(key)`, where a value that is not true counts as missing. -/
def present (fields : Dict) (key : String) : Option Json := (fields.get key).filter Json.truthy

/-- `str(fields.get(key) or default)` -/
def textOr (settings : Settings) (fields : Dict) (key default : String) : String :=
  match present fields key with
  | some (.str text) => text
  | some value => settings.str value
  | none => default

/-- `(endpoint or ollama_endpoint).rstrip("/")` -/
def ollamaBase (settings : Settings) (endpoint : Option String) : String :=
  Urls.dropSlashes ((endpoint.filter truthy).getD settings.ollamaEndpoint)

/-- `raw.replace(":", "-").replace("/", "-").replace(".", "-").lower()` -/
def platformName (settings : Settings) (raw : String) : String :=
  settings.lower (String.ofList (raw.toList.map fun c =>
    if c = ':' ∨ c = '/' ∨ c = '.' then '-' else c))

def rawName (settings : Settings) (tag : Dict) : String := strip (textOr settings tag "name" "")

/-- `tag.get("details") or {}`, on which keys are asked for. -/
def detailsOf (tag : Dict) : Except Refusal Dict :=
  match present tag "details" with
  | none => .ok []
  | some (.obj fields) => .ok fields
  | some _ => .error (.raised "AttributeError")

def tagSpec (settings : Settings) (base : String) (tag details : Dict) : ModelSpec :=
  let raw := rawName settings tag
  { name := platformName settings raw
    displayName := raw
    type := "LLM"
    storagePath := "ollama://" ++ raw
    runtime := "ollama"
    version := textOr settings details "parameter_size" "1.0"
    architecture := some (textOr settings details "family" "") |>.filter truthy
    parameterCount := none
    quantization := some (textOr settings details "quantization_level" "") |>.filter truthy
    contextLength := none
    requiredGpuMemoryMib := none
    minGpuCount := 0
    description := some s!"Imported from Ollama at {base}."
    endpointUrl := some base
    metadata := [("ollama_tag", .str raw), ("size_bytes", (tag.get "size").getD .null)] }

structure ImportEntry where
  name : String
  ollamaTag : String
  status : String

/-- One round of the loop of `import_ollama`. -/
def importTag (settings : Settings) (base : String) (catalogue : Catalogue) (tag : Dict) :
    Except Refusal (List ImportEntry × Catalogue) :=
  let raw := rawName settings tag
  if raw = "" then .ok ([], catalogue)
  else do
    let details ← detailsOf tag
    let spec := tagSpec settings base tag details
    match catalogue.modelByName spec.name with
    | some existing =>
        return ([⟨spec.name, raw, "already registered"⟩],
          catalogue.amendModel existing.id fun model => { model with endpointUrl := some base })
    | none =>
        let (model, catalogue) ← registerModel settings catalogue spec
        return ([⟨model.name, raw, "registered"⟩], catalogue)

def importTags (settings : Settings) (base : String) :
    List Dict → Catalogue → Except Refusal (List ImportEntry × Catalogue)
  | [], catalogue => .ok ([], catalogue)
  | tag :: rest, catalogue => do
      let (entries, catalogue) ← importTag settings base catalogue tag
      let (others, catalogue) ← importTags settings base rest catalogue
      return (entries ++ others, catalogue)

/-- What `GET {base}/api/tags` gave: the models of the answer, or an error. An
address without a host cannot answer. -/
def tagsAt (base : String) (reply : Except String (List Dict)) : Except Refusal (List Dict) :=
  match if base = "" then .error "Request URL is missing a protocol." else reply with
  | .ok tags => .ok tags
  | .error failure =>
      .error (.app (validationError (s!"Could not reach Ollama at {base}: {failure}.\n\n" ++
        "Two things usually cause this. Inside a container 'localhost' means the container " ++
        "itself, so the address must be host.docker.internal to reach the machine running " ++
        "Ollama. And Ollama listens on 127.0.0.1 by default, which refuses connections from " ++
        "containers — restart it with OLLAMA_HOST=0.0.0.0.") [("field", "endpoint")]))

def importOllama (settings : Settings) (catalogue : Catalogue) (endpoint : Option String)
    (reply : Except String (List Dict)) : Except Refusal (List ImportEntry × Catalogue) := do
  let base := ollamaBase settings endpoint
  let tags ← tagsAt base reply
  importTags settings base tags catalogue

structure DirectoryScan where
  missing : Bool
  files : Nat
  hashed : Nat
  totalBytes : Nat
  hasWeights : Bool

structure ImportResult where
  modelName : String
  status : String
  filesFound : Nat
  filesHashed : Nat
  totalBytes : Nat
  detail : Option String

def scannedStatus (model : Model) (scan : DirectoryScan) : ModelStatus × Option String :=
  if model.runtime = "mock" then (.available, some "Mock runtime — no weights required.")
  else if scan.missing then
    (.unavailable, some s!"{model.storagePath} is not a directory on this host.")
  else if scan.files = 0 then
    (.unavailable, some "Directory exists but contains no files.")
  else if scan.hasWeights then (.available, none)
  else (.unavailable, some ("No weight files found (.safetensors/.bin/.gguf). The copy may " ++
    "be incomplete."))

/-- What `import_from_disk` reports. -/
def scanReport (model : Model) (scan : DirectoryScan) : ImportResult :=
  let (status, detail) := scannedStatus model scan
  if model.runtime = "mock" then
    ⟨model.name, status.text, 0, 0, 0, some "Mock runtime; filesystem scan skipped."⟩
  else if scan.missing then ⟨model.name, status.text, 0, 0, 0, detail⟩
  else ⟨model.name, status.text, scan.files, scan.hashed, scan.totalBytes, detail⟩

/-- `import_from_disk`; `scan` is what lies under a path. -/
def importFromDisk (catalogue : Catalogue) (modelId : Nat) (scan : String → DirectoryScan) :
    Except Refusal (ImportResult × Catalogue) :=
  match catalogue.modelById modelId with
  | none => .error (.app (notFoundError s!"No model with id {modelId}."))
  | some model =>
      let (status, detail) := scannedStatus model (scan model.storagePath)
      .ok (scanReport model (scan model.storagePath),
        catalogue.amendModel model.id fun model =>
          { model with status := status, statusDetail := detail })

structure ManifestSpec where
  name : Option String
  displayName : Option String
  type : Option String
  storagePath : Option String
  runtime : Option String
  version : Option String
  architecture : Option String
  parameterCount : Option Nat
  quantization : Option String
  contextLength : Option (Option Nat)
  requiredGpuMemoryMib : Option (Option Nat)
  minGpuCount : Option Nat
  description : Option (Option String)
  metadata : Dict
  aliases : List String

/-- What a file says. A value that is not true counts as a mapping without keys. -/
inductive ManifestContent
  | malformed (failure : String)
  | noMapping
  | mapping (spec : ManifestSpec)

structure Manifest where
  filename : String
  content : ManifestContent

def ManifestSpec.registration (settings : Settings) (spec : ManifestSpec) (name : String) :
    ModelSpec where
  name := name
  displayName := spec.displayName.getD name
  type := spec.type.getD "LLM"
  storagePath := spec.storagePath.getD s!"{settings.rootPath}/{name}"
  runtime := spec.runtime.getD settings.defaultRuntime
  version := spec.version.getD "1.0"
  architecture := spec.architecture
  parameterCount := spec.parameterCount
  quantization := spec.quantization
  contextLength := spec.contextLength.getD none
  requiredGpuMemoryMib := spec.requiredGpuMemoryMib.getD none
  minGpuCount := spec.minGpuCount.getD 1
  description := spec.description.getD none
  endpointUrl := none
  metadata := spec.metadata

def ManifestSpec.update (spec : ManifestSpec) (model : Model) : Model :=
  { model with
    displayName := spec.displayName.getD model.displayName
    contextLength := spec.contextLength.getD model.contextLength
    requiredGpuMemoryMib := spec.requiredGpuMemoryMib.getD model.requiredGpuMemoryMib
    description := spec.description.getD model.description }

def Catalogue.addAlias (catalogue : Catalogue) (aliasName : String) (modelId : Nat)
    (description : Option String) (enabled : Bool) (now : Int) :
    Except Refusal (ModelAlias × Catalogue) := do
  raiseIf (catalogue.aliases.any fun entry => entry.aliasName = aliasName)
    (.constraint "model_aliases")
  let record : ModelAlias := ⟨catalogue.nextId, aliasName, modelId, description, enabled, now⟩
  return (record,
    { catalogue with aliases := catalogue.aliases ++ [record], nextId := catalogue.nextId + 1 })

def addAliases (filename : String) (modelId : Nat) (now : Int) :
    List String → Catalogue → Except Refusal Catalogue
  | [], catalogue => .ok catalogue
  | name :: rest, catalogue =>
      match catalogue.aliasByName name with
      | some _ => addAliases filename modelId now rest catalogue
      | none => do
          let (_, catalogue) ← catalogue.addAlias name modelId
            (some s!"From manifest {filename}") true now
          addAliases filename modelId now rest catalogue

def convergeModel (settings : Settings) (catalogue : Catalogue) (spec : ManifestSpec)
    (name : String) : Except Refusal (Nat × Catalogue) :=
  match catalogue.modelByName name with
  | none => do
      let (model, catalogue) ← registerModel settings catalogue (spec.registration settings name)
      return (model.id, catalogue)
  | some existing => .ok (existing.id, catalogue.amendModel existing.id spec.update)

/-- One round of the loop of `load_manifests`. -/
def loadManifest (settings : Settings) (scan : String → DirectoryScan) (now : Int)
    (catalogue : Catalogue) (manifest : Manifest) : Except Refusal (ImportResult × Catalogue) :=
  match manifest.content with
  | .malformed failure =>
      .ok (⟨manifest.filename, "ERROR", 0, 0, 0, some s!"Malformed YAML: {failure}"⟩, catalogue)
  | .noMapping => .error (.raised "AttributeError")
  | .mapping spec =>
      match spec.name.filter truthy with
      | none =>
          .ok (⟨manifest.filename, "ERROR", 0, 0, 0, some "Manifest has no 'name'."⟩, catalogue)
      | some name => do
          let (modelId, catalogue) ← convergeModel settings catalogue spec name
          let (result, catalogue) ← importFromDisk catalogue modelId scan
          let catalogue ← addAliases manifest.filename modelId now spec.aliases catalogue
          return (result, catalogue)

/-- `load_manifests`, for the files of the directory in order. -/
def loadManifests (settings : Settings) (scan : String → DirectoryScan) (now : Int) :
    List Manifest → Catalogue → Except Refusal (List ImportResult × Catalogue)
  | [], catalogue => .ok ([], catalogue)
  | manifest :: rest, catalogue => do
      let (result, catalogue) ← loadManifest settings scan now catalogue manifest
      let (results, catalogue) ← loadManifests settings scan now rest catalogue
      return (result :: results, catalogue)

def createAlias (catalogue : Catalogue) (aliasName : String) (modelId : Nat)
    (description : Option String) (enabled : Bool) (now : Int) :
    Except Refusal (ModelAlias × Catalogue) := do
  raiseIf (catalogue.aliasByName aliasName).isSome (.app (conflictError
    s!"Alias '{aliasName}' already exists." [("field", "alias")]))
  raiseIf (catalogue.modelById modelId).isNone (.app (notFoundError
    s!"No model with id {modelId}."))
  raiseIf (catalogue.modelByName aliasName).isSome (.app (conflictError
    (s!"'{aliasName}' is already a model name. An alias that shadows a model would make " ++
      "that model unreachable by its own name.") [("field", "alias")]))
  catalogue.addAlias aliasName modelId description enabled now

def updateAlias (catalogue : Catalogue) (aliasId : Nat) (modelId : Option Nat)
    (description : Option String) (enabled : Option Bool) :
    Except Refusal (ModelAlias × Catalogue) :=
  match catalogue.aliasById aliasId with
  | none => .error (.app (notFoundError s!"No alias with id {aliasId}."))
  | some record => do
      raiseIf (modelId.any fun id => (catalogue.modelById id).isNone) (.app (notFoundError
        s!"No model with id {modelId.getD 0}."))
      let change (entry : ModelAlias) : ModelAlias :=
        { entry with
          modelId := modelId.getD entry.modelId
          description := description.or entry.description
          enabled := enabled.getD entry.enabled }
      return (change record,
        { catalogue with
          aliases := Rows.amend ModelAlias.id record.id change catalogue.aliases })

def deleteAlias (catalogue : Catalogue) (aliasId : Nat) : Except Refusal Catalogue :=
  match catalogue.aliasById aliasId with
  | none => .error (.app (notFoundError s!"No alias with id {aliasId}."))
  | some record =>
      .ok { catalogue with
        aliases := catalogue.aliases.filter fun entry => entry.id ≠ record.id }

end AiPlatform.Serving
