import AiPlatform.ComputeBackend

/-!
`DeploymentService` of `app/services/deployment.py` and the pass of
`DeploymentWorker`. What `advance` raises is a result, because the worker
catches it; elsewhere it ends the request.
-/

namespace AiPlatform.Deployments

open Agents (strip clip truthy)

def getDeploymentRow (deploymentId : Nat) : DeploymentProgram (Option ModelDeployment) :=
  read (.deployment deploymentId)

def getModel (modelId : Nat) : DeploymentProgram (Option Model) := read (.model modelId)

def listNodes (limit : Nat) : DeploymentProgram (List Node) := read (.nodes limit)

def listPollable : DeploymentProgram (List Node) := read .pollable

def listPending : DeploymentProgram (List (ModelDeployment × Option Model)) := read .pending

def listDeployments : DeploymentProgram (List ModelDeployment) := read .deployments

def orRaise {α : Type} : Except String α → DeploymentProgram α
  | .ok value => pure value
  | .error message => raise (.raised message)

def imageFor (settings : Settings) (runtime : String) : DeploymentProgram String :=
  match (settings.runtimeImages.lookup runtime).filter truthy with
  | some image => pure image
  | none =>
      raise (.app (validationError
        s!"No container image is configured for runtime '{runtime}'."
        [("configured", String.intercalate ", "
          ((settings.runtimeImages.map (·.1)).insertionSort (· ≤ ·)))]))

def getDeployment (deploymentId : Nat) : DeploymentProgram ModelDeployment := do
  match ← getDeploymentRow deploymentId with
  | none => raise (.app (notFoundError s!"No deployment with id {deploymentId}."))
  | some deployment => return deployment

def externalKeyFor (settings : Settings) (runtime endpoint : String) : Option String :=
  let trimmed (text : String) := String.ofList (text.toList.reverse.dropWhile (· = '/')).reverse
  let configured := trimmed (settings.externalEndpoint.getD "")
  if runtime ≠ "external" then none
  else if configured = "" ∨ trimmed endpoint ≠ configured then none
  else settings.externalApiKey.filter truthy

def attachExternal (settings : Settings) (model : Model) (runtime : String) (actor : Nat) :
    DeploymentProgram Nat := do
  let endpoint := strip (model.endpointUrl.getD "")
  if !truthy endpoint then
    raise (.app (validationError (s!"'{model.name}' uses the '{runtime}' runtime but has no " ++
      "endpoint_url. The platform does not start an external runtime — it needs to be told " ++
      "where the model is already being served.") [("field", "endpoint_url")]))
  else
    let healthPath := (settings.runtimeHealthPaths.lookup runtime).getD "/v1/models"
    let (healthy, detail) ←
      waitUntilServing endpoint healthPath (externalKeyFor settings runtime endpoint) >>= orRaise
    if !healthy then
      raise (.app (validationError (s!"Nothing is answering at {endpoint} ({detail}). " ++
        s!"Check that {runtime} is running and reachable from inside the platform " ++
        "network — a URL of 'localhost' means the backend container, not your " ++
        "machine; use host.docker.internal instead.") [("field", "endpoint_url")]))
    else
      insert (.deployment {
        id := 0
        modelId := model.id
        nodeId := none
        state := .running
        stateDetail := some (s!"Attached to an external {runtime} runtime; " ++
          "the platform does not manage its lifecycle.")
        gpuIndices := []
        reservationId := none
        runtime := runtime
        image := ""
        containerId := none
        containerName := none
        internalPort := 0
        internalUrl := some endpoint
        tensorParallelSize := 1
        maxModelLen := model.contextLength
        gpuMemoryUtilization := 0
        errorMessage := none
        logsExcerpt := none
        requestedBy := some actor })

def validateModel (settings : Settings) (model : Model) (runtime : String) :
    DeploymentProgram Unit := do
  if model.status = .disabled then
    raise (.app (validationError s!"'{model.name}' is disabled." []))
  else if model.status ≠ .available then
    raise (.app (validationError (s!"'{model.name}' is {model.status.text}, not AVAILABLE. " ++
      "Import it from disk first — deploying a model whose weights are absent fails minutes " ++
      "later inside the container, where it is far harder to diagnose.")
      [("status", model.status.text), ("detail", model.statusDetail.getD "None")]))
  else
    let _ ← imageFor settings runtime
    return ()

def pickNode (spec : DeploymentRequestSpec) : DeploymentProgram (Option Node) := do
  match spec.nodeId with
  | none => return none
  | some nodeId =>
      match ← getNode nodeId with
      | none => raise (.app (notFoundError s!"No node with id {nodeId}."))
      | some node =>
          if node.status ≠ .online then
            raise (.app (conflictError (s!"Node '{node.name}' is {node.status.text}. Deploy to " ++
              "an ONLINE node.") []))
          else return some node

def firstOnlineNode : DeploymentProgram Node := do
  let nodes ← listNodes 100
  match nodes.find? fun node => node.status = .online with
  | some node => return node
  | none =>
      raise (.app (conflictError
        "No ONLINE node is available. Register a node before deploying a model." []))

def place (settings : Settings) (model : Model) (spec : DeploymentRequestSpec)
    (node : Option Node) (runtime : String) : DeploymentProgram Placement := do
  if runtime = "mock" then
    let target ← match node with
      | some node => pure node
      | none => firstOnlineNode
    return ⟨target.id, [], none, "mock runtime — no GPUs required"⟩
  else
    let nodeIds ← match node with
      | some node => pure [node.id]
      | none => do
          let nodes ← listPollable
          pure (nodes.map (·.id))
    let resources ← gpuResourcesFor nodeIds
    let chosen := spec.gpuIds.filter fun indices => !indices.isEmpty
    let request : PlacementRequest := {
      modelId := model.id
      gpuCount := (chosen.map List.length).getD model.minGpuCount
      requiredMemoryMibPerGpu := model.requiredGpuMemoryMib.getD 0
      nodeId := node.map (·.id)
      gpuIndices := chosen }
    match plan settings.idText request resources with
    | .error failure => raise (.app (conflictError failure.reason failure.details))
    | .ok placement => return placement

/-- `SimpleGpuScheduler.reserve`, for a placement that needs GPUs. -/
def reservePlacement (model : Model) (placement : Placement) : DeploymentProgram Placement := do
  if placement.gpuIndices.isEmpty then return placement
  else
    let reservation ← reserve placement.nodeId placement.gpuIndices s!"model:{model.id}" none
    return { placement with reservationId := some reservation }

/-- `first or second`, where zero and the empty text count as missing. -/
def orElseNat (value : Option Nat) (default : Nat) : Nat := (value.filter (· ≠ 0)).getD default

def requestDeployment (settings : Settings) (spec : DeploymentRequestSpec) (actor : Nat) :
    DeploymentProgram Nat := do
  match ← getModel spec.modelId with
  | none => raise (.app (notFoundError s!"No model with id {spec.modelId}."))
  | some model =>
      let runtime := (spec.runtime.filter truthy).getD
        (if truthy model.runtime then model.runtime else settings.defaultRuntime)
      if externalRuntimes.contains runtime then attachExternal settings model runtime actor
      else
        validateModel settings model runtime
        let node ← pickNode spec
        let placement ← place settings model spec node runtime
        let reserved ← reservePlacement model placement
        let image ← imageFor settings runtime
        insert (.deployment {
          id := 0
          modelId := model.id
          nodeId := some reserved.nodeId
          state := .scheduling
          stateDetail := some reserved.rationale
          gpuIndices := reserved.gpuIndices
          reservationId := reserved.reservationId
          runtime := runtime
          image := image
          containerId := none
          containerName := none
          internalPort := containerPort
          internalUrl := none
          tensorParallelSize := orElseNat spec.tensorParallelSize
            (if reserved.gpuIndices.isEmpty then 1 else reserved.gpuIndices.length)
          maxModelLen := match spec.maxModelLen.filter (· ≠ 0) with
            | some length => some length
            | none => model.contextLength
          gpuMemoryUtilization :=
            (spec.gpuMemoryUtilization.filter (· ≠ 0)).getD defaultGpuMemoryUtilization
          errorMessage := none
          logsExcerpt := none
          requestedBy := some actor })

def nodeFor (deployment : ModelDeployment) : DeploymentProgram (Option Node) :=
  match deployment.nodeId with
  | none => pure none
  | some nodeId => getNode nodeId

/-- `if deployment.reservation_id: release it` -/
def releaseReservation (deployment : ModelDeployment) : DeploymentProgram Unit := do
  match deployment.reservationId with
  | none => return ()
  | some reservation =>
      let _ ← release reservation
      assign deployment.id (.reservationId none)

/-- `text[-n:]` -/
def lastPart (text : String) (n : Nat) : String :=
  String.ofList (text.toList.drop (text.length - n))

def fail (deployment : ModelDeployment) (message : String) (logs : Option String) :
    DeploymentProgram DeploymentState := do
  assign deployment.id (.state .failed)
  assign deployment.id (.stateDetail (some (clip message 500)))
  assign deployment.id (.errorMessage (some (clip message 2000)))
  match logs.filter truthy with
  | some logs => assign deployment.id (.logsExcerpt (some (lastPart logs 8000)))
  | none => pure ()
  releaseReservation deployment
  return .failed

/-- `_create_container` -/
def createForDeployment (settings : Settings) (deployment : ModelDeployment) :
    DeploymentProgram (Except String DeploymentState) := do
  let model ← getModel deployment.modelId
  let node ← nodeFor deployment
  match model, node with
  | some model, some node =>
      assign deployment.id (.state .creating)
      match ← backendFor node with
      | .error message => return .error message
      | .ok _ =>
          match ← deployModel settings node.agentUrl {
              deploymentId := deployment.id
              modelId := model.name
              modelPath := model.storagePath
              nodeId := node.id
              gpuIndices := deployment.gpuIndices
              runtime := deployment.runtime
              image := deployment.image
              tensorParallelSize := deployment.tensorParallelSize
              maxModelLen := deployment.maxModelLen
              gpuMemoryUtilization := deployment.gpuMemoryUtilization
              servedModelName := model.name
              extraArgs := model.extraArgs } with
          | .error message => return .error message
          | .ok handle =>
              if handle.state = .failed then
                let state ← fail deployment
                  ((handle.message.filter truthy).getD "Container creation failed.") none
                return .ok state
              else
                assign deployment.id (.containerId (some handle.backendRef))
                assign deployment.id (.containerName
                  (some (containerNameOf settings deployment.id)))
                assign deployment.id (.internalUrl handle.internalUrl)
                assign deployment.id (.state .healthCheck)
                assign deployment.id (.stateDetail
                  (some "Container started; waiting for the runtime to serve."))
                return .ok .healthCheck
  | _, _ =>
      let state ← fail deployment "Model or node no longer exists." none
      return .ok state

def awaitHealth (deployment : ModelDeployment) :
    DeploymentProgram (Except String DeploymentState) := do
  match ← nodeFor deployment with
  | none =>
      let state ← fail deployment "Node no longer exists." none
      return .ok state
  | some node =>
      match ← backendFor node with
      | .error message => return .error message
      | .ok _ =>
          let containerId := deployment.containerId.getD ""
          match ← waitUntilHealthy ⟨.healthCheck, containerId, deployment.internalUrl, none⟩ with
          | .error message => return .error message
          | .ok result =>
              if result.state = .running then
                assign deployment.id (.state .running)
                assign deployment.id (.stateDetail result.message)
                return .ok .running
              else
                match ← fetchLogs node.agentUrl containerId 200 with
                | .error message => return .error message
                | .ok logs =>
                    let state ← fail deployment
                      ((result.message.filter truthy).getD "Runtime never became healthy.")
                      (some logs)
                    return .ok state

def advance (settings : Settings) (deployment : ModelDeployment) :
    DeploymentProgram (Except String DeploymentState) :=
  match deployment.state with
  | .scheduling | .requested => createForDeployment settings deployment
  | .creating | .starting | .healthCheck => awaitHealth deployment
  | state => pure (.ok state)

/-- The loop of `tick`: an exception is recorded on the row it was raised for. -/
def tickEach (settings : Settings) : List ModelDeployment → DeploymentProgram Unit
  | [] => pure ()
  | deployment :: rest => do
      match ← advance settings deployment with
      | .ok _ => pure ()
      | .error _ => write (.recordFailure deployment.id)
      tickEach settings rest

def tick (settings : Settings) : DeploymentProgram Unit := do
  let pending ← listPending
  tickEach settings (pending.map (·.1))

def stopDeployment (deploymentId : Nat) : DeploymentProgram Unit := do
  let deployment ← getDeployment deploymentId
  if deployment.state.ended then return ()
  else
    let node ← nodeFor deployment
    assign deployment.id (.state .stopping)
    match node, deployment.containerId.filter truthy with
    | some node, some containerId =>
        backendFor node >>= orRaise
        stopModel node.agentUrl containerId >>= orRaise
    | _, _ => pure ()
    releaseReservation deployment
    assign deployment.id (.state .stopped)
    assign deployment.id (.internalUrl none)

def restartDeployment (deploymentId : Nat) : DeploymentProgram Unit := do
  let deployment ← getDeployment deploymentId
  let node ← nodeFor deployment
  match node, deployment.containerId.filter truthy with
  | some node, some containerId =>
      backendFor node >>= orRaise
      let result ← restartModel node.agentUrl
        ⟨.starting, containerId, deployment.internalUrl, none⟩ >>= orRaise
      if result.state = .failed then
        let _ ← fail deployment ((result.message.filter truthy).getD "Restart failed.") none
        return ()
      else
        assign deployment.id (.state .healthCheck)
        assign deployment.id (.stateDetail (some "Restarted; waiting for the runtime to serve."))
  | _, _ =>
      raise (.app (conflictError "This deployment has no running container to restart." []))

def deleteDeployment (deploymentId : Nat) : DeploymentProgram Unit := do
  let deployment ← getDeployment deploymentId
  if deployment.state.ended then write (.deleteDeployment deployment.id)
  else
    stopDeployment deploymentId
    let again ← getDeployment deploymentId
    write (.deleteDeployment again.id)

structure Orphan where
  node : String
  containerId : String
  name : String
  image : String
  running : Bool
  removed : Bool
  error : Option String

/-- The ids that `reconcile_orphans` knows, in full and as `docker ps` shows them. -/
def knownIds (deployments : List ModelDeployment) : List String :=
  (deployments.filterMap fun deployment => deployment.containerId.filter truthy).flatMap
    fun id => [id, clip id 12]

def claimedBy (known : List String) (containerId : String) : Bool :=
  known.contains containerId || known.contains (clip containerId 12)

def reconcileContainers (node : Node) (known : List String) (remove : Bool) :
    List (Hosts.Container ContainerSpec) → DeploymentProgram (List Orphan)
  | [] => pure []
  | container :: rest => do
      if claimedBy known container.id then reconcileContainers node known remove rest
      else
        let record : Orphan := ⟨node.name, clip container.id 12, container.spec.name,
          container.spec.image, container.running, false, none⟩
        let entry ← if remove then do
            match ← removeContainer node.agentUrl container.id with
            | .ok _ => pure { record with removed := true }
            | .error failure => pure { record with error := some (clip failure.message 200) }
          else pure record
        let others ← reconcileContainers node known remove rest
        return entry :: others

/-- The containers on a node, or `none` where it cannot be asked. -/
def scanNode (node : Node) :
    DeploymentProgram (Option (List (Hosts.Container ContainerSpec))) := do
  match ← backendFor node with
  | .error _ => return none
  | .ok _ =>
      match ← listContainers node.agentUrl with
      | .error _ => return none
      | .ok containers => return some containers

def reconcileNodes (known : List String) (remove : Bool) :
    List Node → DeploymentProgram (List Orphan × List String)
  | [] => pure ([], [])
  | node :: rest => do
      if node.status ≠ .online then
        let (orphans, unscanned) ← reconcileNodes known remove rest
        return (orphans, s!"{node.name} ({node.status.text})" :: unscanned)
      else
        match ← scanNode node with
        | none => do
            let (orphans, unscanned) ← reconcileNodes known remove rest
            return (orphans, s!"{node.name} (unreachable)" :: unscanned)
        | some containers => do
            let found ← reconcileContainers node known remove containers
            let (orphans, unscanned) ← reconcileNodes known remove rest
            return (found ++ orphans, unscanned)

/-- `reconcile_orphans`, with `last_unscanned_nodes`. -/
def reconcileOrphans (remove : Bool) : DeploymentProgram (List Orphan × List String) := do
  let deployments ← listDeployments
  let nodes ← listNodes 100
  reconcileNodes (knownIds deployments) remove nodes

def run (request : Request) : DeploymentProgram Unit :=
  match request.action with
  | .deploy spec actor => do
      let _ ← requestDeployment request.settings spec actor
      return ()
  | .stop deploymentId => stopDeployment deploymentId
  | .restart deploymentId => restartDeployment deploymentId
  | .delete deploymentId => deleteDeployment deploymentId
  | .reconcile remove => do
      let _ ← reconcileOrphans remove
      return ()
  | .tick => tick request.settings
  | .reserve nodeId gpuIndices purpose reservedBy => do
      let _ ← reserve nodeId gpuIndices purpose (some reservedBy)
      return ()
  | .release reservationId => do
      let _ ← release reservationId
      return ()
  | .registerNode name agentUrl => registerNode name agentUrl
  | .deleteNode nodeId => deleteNode nodeId
  | .syncNode nodeId => checkNode nodeId
  | .syncNodes => syncNodes

def deploymentMachine : Machine deploymentSignature where
  Request := Request
  Session := Session
  Shared := Shared
  Answer := Answer
  Change := Change
  program := run
  opened := Session.opened
  after := Session.after
  react := fun i session shared op answer => shared.react i session op answer
  awaits := fun _ => false
  commit := fun i session shared => shared.commit i session
  release := Shared.release
  change := fun change shared => shared.change change

abbrev DeploymentSystem := System deploymentMachine

abbrev DeploymentLabel := Label deploymentMachine

end AiPlatform.Deployments
