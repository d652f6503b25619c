import AiPlatform.Gateway

/-!
The deployments of the catalogue one request after the other, with the requests
that carry a key: what `DeploymentService` does to the rows, the steps of its
worker, `external-import` of `app/utils/cli.py` and the calls of the gateway. What
the scheduler, a node agent or a probe answers comes with the request; columns
that neither an address nor a key depends on are as in the service.
-/

namespace AiPlatform.Serving

open Agents (strip clip truthy)
open Deployments (ModelStatus DeploymentState DeploymentRequestSpec Placement externalRuntimes
  externalKeyFor orElseNat lastPart containerPort defaultGpuMemoryUtilization containerNameOf)

structure Sent where
  address : String
  apiKey : Option String
  deriving DecidableEq

/-- What `VLLMProvider` makes of its arguments. -/
def Provider.sends (provider : Provider) : Sent :=
  ⟨Urls.dropSlashes provider.baseUrl, provider.apiKey.filter truthy⟩

namespace Catalogue

def addDeployment (catalogue : Catalogue) (row : DeploymentRow) : Catalogue :=
  { catalogue with
    deployments := catalogue.deployments ++ [{ row with id := catalogue.nextId }]
    nextId := catalogue.nextId + 1 }

def deploymentById (catalogue : Catalogue) (id : Nat) : Option DeploymentRow :=
  catalogue.deployments.find? fun row => row.id = id

def amendDeployment (catalogue : Catalogue) (id : Nat) (change : DeploymentRow → DeploymentRow) :
    Catalogue :=
  { catalogue with
    deployments := Rows.amend (fun row : DeploymentRow => row.id) id change
      catalogue.deployments }

end Catalogue

/-- `_attach_external`; `probe` is what the health probe finds. -/
def attachExternal (settings : Settings) (catalogue : Catalogue) (model : Model)
    (runtime : String) (probe : Bool × String) (actor : Nat) (now : Int) :
    List Sent × Except Refusal Catalogue :=
  let endpoint := strip (model.endpointUrl.getD "")
  let name := model.name
  let detail := probe.2
  if endpoint = "" then
    ([], .error (.app (validationError (s!"'{name}' uses the '{runtime}' runtime but has no " ++
      "endpoint_url. The platform does not start an external runtime — it needs to be told " ++
      "where the model is already being served.") [("field", "endpoint_url")])))
  else
    ([Provider.sends ⟨endpoint, externalKeyFor settings.toSettings runtime endpoint⟩],
      if probe.1 = false then
        .error (.app (validationError (s!"Nothing is answering at {endpoint} ({detail}). " ++
          s!"Check that {runtime} is running and reachable from inside the platform " ++
          "network — a URL of 'localhost' means the backend container, not your " ++
          "machine; use host.docker.internal instead.") [("field", "endpoint_url")]))
      else
        .ok (catalogue.addDeployment {
          id := 0
          modelId := model.id
          nodeId := none
          state := .running
          stateDetail := some (s!"Attached to an external {runtime} runtime; " ++
            "the platform does not manage its lifecycle.")
          gpuIndices := []
          reservationId := none
          runtime := runtime
          image := ""
          containerId := none
          containerName := none
          internalPort := 0
          internalUrl := some endpoint
          tensorParallelSize := 1
          maxModelLen := model.contextLength
          gpuMemoryUtilization := 0
          errorMessage := none
          logsExcerpt := none
          requestedBy := some actor
          createdAt := now }))

def imageFor (settings : Settings) (runtime : String) : Except Refusal String :=
  match (settings.runtimeImages.lookup runtime).filter truthy with
  | some image => .ok image
  | none =>
      .error (.app (validationError s!"No container image is configured for runtime '{runtime}'."
        [("configured", String.intercalate ", "
          ((settings.runtimeImages.map (·.1)).insertionSort (· ≤ ·)))]))

def validateModel (settings : Settings) (model : Model) (runtime : String) :
    Except Refusal String := do
  let name := model.name
  let status := model.status.text
  raiseIf (model.status = .disabled) (.app (validationError s!"'{name}' is disabled." []))
  raiseIf (model.status ≠ .available) (.app (validationError
    (s!"'{name}' is {status}, not AVAILABLE. Import it from disk first — deploying a model " ++
      "whose weights are absent fails minutes later inside the container, where it is far " ++
      "harder to diagnose.")
    [("status", status), ("detail", model.statusDetail.getD "None")]))
  imageFor settings runtime

/-- The part of `request_deployment` for a runtime that the platform starts;
`placed` is where the scheduler reserved GPUs. -/
def deployManaged (settings : Settings) (catalogue : Catalogue) (model : Model)
    (runtime : String) (spec : DeploymentRequestSpec) (placed : Except Refusal Placement)
    (actor : Nat) (now : Int) : Except Refusal Catalogue := do
  let image ← validateModel settings model runtime
  let reserved ← placed
  return catalogue.addDeployment {
    id := 0
    modelId := model.id
    nodeId := some reserved.nodeId
    state := .scheduling
    stateDetail := some reserved.rationale
    gpuIndices := reserved.gpuIndices
    reservationId := reserved.reservationId
    runtime := runtime
    image := image
    containerId := none
    containerName := none
    internalPort := containerPort
    internalUrl := none
    tensorParallelSize := orElseNat spec.tensorParallelSize
      (if reserved.gpuIndices.isEmpty then 1 else reserved.gpuIndices.length)
    maxModelLen := match spec.maxModelLen.filter (· ≠ 0) with
      | some length => some length
      | none => model.contextLength
    gpuMemoryUtilization :=
      (spec.gpuMemoryUtilization.filter (· ≠ 0)).getD defaultGpuMemoryUtilization
    errorMessage := none
    logsExcerpt := none
    requestedBy := some actor
    createdAt := now }

/-- `spec.runtime or model.runtime or default_runtime` -/
def runtimeFor (settings : Settings) (spec : DeploymentRequestSpec) (model : Model) : String :=
  (spec.runtime.filter truthy).getD
    (if truthy model.runtime then model.runtime else settings.defaultRuntime)

def requestDeployment (settings : Settings) (catalogue : Catalogue)
    (spec : DeploymentRequestSpec) (placed : Except Refusal Placement) (probe : Bool × String)
    (actor : Nat) (now : Int) : List Sent × Except Refusal Catalogue :=
  match catalogue.modelById spec.modelId with
  | none =>
      let modelId := spec.modelId
      ([], .error (.app (notFoundError s!"No model with id {modelId}.")))
  | some model =>
      let runtime := runtimeFor settings spec model
      if externalRuntimes.contains runtime then
        attachExternal settings catalogue model runtime probe actor now
      else ([], deployManaged settings catalogue model runtime spec placed actor now)

/-- `_fail` -/
def failed (message : String) (logs : Option String) (row : DeploymentRow) : DeploymentRow :=
  { row with
    state := .failed
    stateDetail := some (clip message 500)
    errorMessage := some (clip message 2000)
    logsExcerpt := match logs.filter truthy with
      | some logs => some (lastPart logs 8000)
      | none => row.logsExcerpt
    reservationId := none }

inductive Finding
  | raised
  | gone
  | refused (message : Option String)
  | answered (containerId : String)
  | healthy (detail : String)
  | unhealthy (message : Option String) (logs : String)

def createContainer (settings : Settings) (row : DeploymentRow) : Finding → DeploymentRow
  | .gone => failed "Model or node no longer exists." none row
  | .refused message => failed ((message.filter truthy).getD "Container creation failed.") none row
  | .answered containerId =>
      let name := containerNameOf settings.toSettings row.id
      { row with
        containerId := some containerId
        containerName := some name
        internalUrl := some s!"http://{name}:{containerPort}"
        state := .healthCheck
        stateDetail := some "Container started; waiting for the runtime to serve." }
  | _ => { row with state := .failed, errorMessage := some Deployments.Session.workerFailure }

def awaitHealth (row : DeploymentRow) : Finding → DeploymentRow
  | .gone => failed "Node no longer exists." none row
  | .healthy detail => { row with state := .running, stateDetail := some detail }
  | .unhealthy message logs =>
      failed ((message.filter truthy).getD "Runtime never became healthy.") (some logs) row
  | _ => { row with state := .failed, errorMessage := some Deployments.Session.workerFailure }

/-- `advance`, with what the loop of the worker makes of an exception. -/
def advance (settings : Settings) (finding : Finding) (row : DeploymentRow) : DeploymentRow :=
  match row.state with
  | .scheduling | .requested => createContainer settings row finding
  | .creating | .starting | .healthCheck => awaitHealth row finding
  | _ => row

def probes (row : DeploymentRow) : List Sent :=
  match row.state, row.internalUrl.filter truthy with
  | .creating, some url | .starting, some url | .healthCheck, some url =>
      [Provider.sends ⟨url, none⟩]
  | _, _ => []

/-- `stop_deployment` -/
def stopped (row : DeploymentRow) : DeploymentRow :=
  if row.state.ended then row
  else { row with state := .stopped, reservationId := none, internalUrl := none }

/-- `restart_deployment`; `refused` is what the agent objects. -/
def restarted (refused : Option (Option String)) (row : DeploymentRow) : DeploymentRow :=
  match row.nodeId, row.containerId.filter truthy, refused with
  | some _, some _, some message =>
      failed ((message.filter truthy).getD "Restart failed.") none row
  | some _, some _, none =>
      { row with
        state := .healthCheck
        stateDetail := some "Restarted; waiting for the runtime to serve." }
  | _, _, _ => row

structure ImportOptions where
  endpoint : Option String
  model : String
  aliasName : String
  context : Option Nat

/-- `(endpoint or external_endpoint).rstrip("/")` -/
def ImportOptions.address (settings : Settings) (options : ImportOptions) : String :=
  Urls.dropSlashes ((options.endpoint.filter truthy).getD (settings.externalEndpoint.getD ""))

def ImportOptions.spec (settings : Settings) (options : ImportOptions) : ModelSpec :=
  let endpoint := options.address settings
  let kind := if endpoint = Urls.dropSlashes (settings.externalEndpoint.getD "") then
    "hosted provider" else "local engine"
  { name := platformName settings options.model
    displayName := options.model
    type := "LLM"
    storagePath := "external://" ++ options.model
    runtime := "external"
    version := "1.0"
    architecture := none
    parameterCount := none
    quantization := none
    contextLength := options.context
    requiredGpuMemoryMib := none
    minGpuCount := 0
    description := some s!"Served at {endpoint} ({kind})."
    endpointUrl := some endpoint
    metadata := [("external_model", .str options.model), ("endpoint", .str endpoint)] }

def ImportOptions.change (settings : Settings) (options : ImportOptions) (model : Model) : Model :=
  { model with
    endpointUrl := some (options.address settings)
    storagePath := "external://" ++ options.model
    contextLength := (options.context.filter (· ≠ 0)).or model.contextLength }

def importModel (settings : Settings) (catalogue : Catalogue) (options : ImportOptions) :
    Except Refusal (Nat × Catalogue) := do
  let endpoint := options.address settings
  raiseIf (endpoint = "" ∨ options.model = "") (.raised "Not configured.")
  raiseIf (endpoint = Urls.dropSlashes (settings.externalEndpoint.getD "") ∧
    settings.externalApiKey.filter truthy = none) (.raised "Not configured.")
  match catalogue.modelByName (platformName settings options.model) with
  | none => do
      let (model, catalogue) ← registerModel settings catalogue (options.spec settings)
      return (model.id, catalogue)
  | some existing =>
      return (existing.id, catalogue.amendModel existing.id (options.change settings))

def importAlias (settings : Settings) (catalogue : Catalogue) (options : ImportOptions)
    (modelId : Nat) (now : Int) : Except Refusal Catalogue :=
  let endpoint := options.address settings
  match catalogue.aliasByName options.aliasName with
  | none => do
      let (_, catalogue) ← createAlias catalogue options.aliasName modelId
        (some s!"Hosted model at {endpoint}.") true now
      return catalogue
  | some entry =>
      if entry.modelId = modelId then .ok catalogue
      else do
        let (_, catalogue) ← updateAlias catalogue entry.id (some modelId) none (some true)
        return catalogue

def importDeployment (settings : Settings) (catalogue : Catalogue) (modelId : Nat)
    (probe : Bool × String) (actor : Nat) (now : Int) : List Sent × Except Refusal Catalogue :=
  if catalogue.servingForModel modelId = [] then
    requestDeployment settings catalogue ⟨modelId, none, none, some "external", none, none, none⟩
      (.error (.raised "")) probe actor now
  else ([], .ok catalogue)

def externalImport (settings : Settings) (catalogue : Catalogue) (options : ImportOptions)
    (probe : Bool × String) (actor : Nat) (now : Int) : List Sent × Except Refusal Catalogue :=
  match importModel settings catalogue options with
  | .error refusal => ([], .error refusal)
  | .ok (modelId, catalogue) =>
      let (sent, deployed) := importDeployment settings catalogue modelId probe actor now
      (sent, deployed >>= fun catalogue => importAlias settings catalogue options modelId now)

structure Platform where
  catalogue : Catalogue
  sent : List Sent

inductive Action
  | registry (op : Op)
  | externalImport (options : ImportOptions) (probe : Bool × String) (actor : Nat) (now : Int)
  | deploy (spec : DeploymentRequestSpec) (placed : Except Refusal Placement)
      (probe : Bool × String) (actor : Nat) (now : Int)
  | advance (deploymentId : Nat) (finding : Finding)
  | stop (deploymentId : Nat)
  | restart (deploymentId : Nat) (refused : Option (Option String))
  | delete (deploymentId : Nat)
  | call (requested : String)

namespace Platform

def settle (platform : Platform) (result : List Sent × Except Refusal Catalogue) : Platform :=
  { catalogue := result.2.toOption.getD platform.catalogue
    sent := platform.sent ++ result.1 }

/-- A call of the gateway or of an agent to a model by its name. -/
def call (settings : Settings) (platform : Platform) (requested : String) : Platform :=
  match platform.catalogue.resolve settings requested with
  | .error _ => platform
  | .ok target =>
      { platform with sent := platform.sent ++ [(providerOf settings target).sends] }

def step (settings : Settings) (platform : Platform) : Action → Platform
  | .registry op =>
      { platform with
        catalogue := (platform.catalogue.step settings op).getD platform.catalogue }
  | .externalImport options probe actor now =>
      platform.settle (Serving.externalImport settings platform.catalogue options probe actor now)
  | .deploy spec placed probe actor now =>
      platform.settle (requestDeployment settings platform.catalogue spec placed probe actor now)
  | .advance deploymentId finding =>
      { catalogue := platform.catalogue.amendDeployment deploymentId
          (Serving.advance settings finding)
        sent := platform.sent ++
          ((platform.catalogue.deploymentById deploymentId).map probes).getD [] }
  | .stop deploymentId =>
      { platform with catalogue := platform.catalogue.amendDeployment deploymentId stopped }
  | .restart deploymentId refused =>
      { platform with
        catalogue := platform.catalogue.amendDeployment deploymentId (restarted refused) }
  | .delete deploymentId =>
      { platform with
        catalogue := { platform.catalogue with
          deployments := platform.catalogue.deployments.filter fun row => row.id ≠ deploymentId } }
  | .call requested => platform.call settings requested

end Platform

end AiPlatform.Serving
