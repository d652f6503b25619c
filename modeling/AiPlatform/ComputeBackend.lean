import AiPlatform.AgentModel
import AiPlatform.GpuService

/-!
`DockerComputeBackend` of `app/services/compute_backend.py`. A handle with the
state FAILED is how it reports that the agent refused; an exception that is no
`NodeAgentError` passes through and is the left case of a result.
-/

namespace AiPlatform.Deployments

open Agents (clip truthy)

/-- `DeploymentRequest` of the compute interface. -/
structure DeploymentRequest where
  deploymentId : Nat
  modelId : String
  modelPath : String
  nodeId : Nat
  gpuIndices : List Int
  runtime : String
  image : String
  tensorParallelSize : Nat
  maxModelLen : Option Nat
  gpuMemoryUtilization : Rat
  servedModelName : String
  extraArgs : List String

structure DeploymentHandle where
  state : DeploymentState
  backendRef : String
  internalUrl : Option String
  message : Option String

def vllmCommand (settings : Settings) (request : DeploymentRequest) : List String :=
  let served := if truthy request.servedModelName then request.servedModelName else request.modelId
  let lengths := match request.maxModelLen with
    | some length => if length = 0 then [] else ["--max-model-len", s!"{length}"]
    | none => []
  ["--model", request.modelPath, "--served-model-name", served, "--host", "0.0.0.0",
    "--port", s!"{containerPort}", "--gpu-memory-utilization",
    settings.numberText request.gpuMemoryUtilization] ++
    (if 1 < request.tensorParallelSize then
      ["--tensor-parallel-size", s!"{request.tensorParallelSize}"] else []) ++
    lengths ++ request.extraArgs

/-- `ai-model-{deployment_id[:12]}` -/
def containerNameOf (settings : Settings) (deploymentId : Nat) : String :=
  "ai-model-" ++ clip (settings.idText deploymentId) 12

/-- `_spec` -/
def containerSpec (settings : Settings) (request : DeploymentRequest) : ContainerSpec :=
  let mock := request.runtime == "mock"
  let served := if truthy request.servedModelName then request.servedModelName else request.modelId
  let length := match request.maxModelLen with
    | some length => if length = 0 then 32768 else length
    | none => 32768
  { name := containerNameOf settings request.deploymentId
    image := request.image
    command := if mock then [] else vllmCommand settings request
    environment := [("HF_HUB_OFFLINE", "1"), ("TRANSFORMERS_OFFLINE", "1"),
      ("HF_HUB_DISABLE_TELEMETRY", "1"), ("DO_NOT_TRACK", "1"), ("VLLM_NO_USAGE_STATS", "1")] ++
      if mock then
        [("MOCK_VLLM_MODEL", served), ("MOCK_VLLM_MAX_MODEL_LEN", s!"{length}")] else []
    labels := [(settings.managedLabel, "true"),
      ("ai-platform.deployment", settings.idText request.deploymentId),
      ("ai-platform.model", request.modelId), ("ai-platform.runtime", request.runtime)]
    volumes := if mock then [] else [(request.modelPath, request.modelPath)]
    network := settings.network
    gpus := if mock then none else some request.gpuIndices
    shmSizeBytes := if mock then none else some (8 * 1024 ^ 3)
    restartPolicy := "unless-stopped"
    deploymentId := request.deploymentId
    nodeId := request.nodeId }

def createContainer (agentUrl : String) (spec : ContainerSpec) :
    DeploymentProgram (Except AgentFailure String) :=
  agent agentUrl (.command (.create spec))

def startContainer (agentUrl containerId : String) : DeploymentProgram (Except AgentFailure Unit) :=
  agent agentUrl (.command (.start containerId))

def stopContainer (agentUrl containerId : String) : DeploymentProgram (Except AgentFailure Unit) :=
  agent agentUrl (.command (.stop containerId))

def restartContainer (agentUrl containerId : String) :
    DeploymentProgram (Except AgentFailure Unit) :=
  agent agentUrl (.command (.restart containerId))

def removeContainer (agentUrl containerId : String) :
    DeploymentProgram (Except AgentFailure Unit) :=
  agent agentUrl (.command (.remove containerId))

def listContainers (agentUrl : String) :
    DeploymentProgram (Except AgentFailure (List (Hosts.Container ContainerSpec))) :=
  agent agentUrl .list

def containerLogs (agentUrl containerId : String) (tail : Nat) :
    DeploymentProgram (Except AgentFailure String) :=
  agent agentUrl (.logs containerId tail)

def waitUntilServing (url healthPath : String) (apiKey : Option String) :
    DeploymentProgram (Except String (Bool × String)) :=
  .perform (.serving url healthPath apiKey) .done

def failedHandle (backendRef : String) : AgentFailure → Except String DeploymentHandle
  | .raised message => .error message
  | .unreachable message | .error message =>
      .ok ⟨.failed, backendRef, none, some (clip message 500)⟩

def backendFor (node : Node) : DeploymentProgram (Except String Unit) := do
  match ← agent node.agentUrl .connect with
  | .error failure => return .error failure.message
  | .ok _ => return .ok ()

def deployModel (settings : Settings) (agentUrl : String) (request : DeploymentRequest) :
    DeploymentProgram (Except String DeploymentHandle) := do
  let spec := containerSpec settings request
  match ← createContainer agentUrl spec with
  | .error failure => return failedHandle "" failure
  | .ok containerId =>
      match ← startContainer agentUrl containerId with
      | .error failure => return failedHandle "" failure
      | .ok _ =>
          return .ok ⟨.starting, containerId, some s!"http://{spec.name}:{containerPort}", none⟩

def waitUntilHealthy (handle : DeploymentHandle) :
    DeploymentProgram (Except String DeploymentHandle) := do
  match handle.internalUrl.filter truthy with
  | none =>
      return .ok ⟨.failed, handle.backendRef, none,
        some "No internal URL — the container was never started."⟩
  | some url =>
      match ← waitUntilServing url "/health" none with
      | .error message => return .error message
      | .ok (healthy, detail) =>
          return .ok ⟨if healthy then .running else .failed, handle.backendRef, some url,
            some detail⟩

/-- `stop_model`: an agent that fails is not an error. -/
def stopModel (agentUrl containerId : String) : DeploymentProgram (Except String Unit) := do
  match ← stopContainer agentUrl containerId with
  | .error (.raised message) => return .error message
  | .error _ => return .ok ()
  | .ok _ =>
      match ← removeContainer agentUrl containerId with
      | .error (.raised message) => return .error message
      | .error _ | .ok _ => return .ok ()

def restartModel (agentUrl : String) (handle : DeploymentHandle) :
    DeploymentProgram (Except String DeploymentHandle) := do
  match ← restartContainer agentUrl handle.backendRef with
  | .error failure => return failedHandle handle.backendRef failure
  | .ok _ => return .ok ⟨.starting, handle.backendRef, handle.internalUrl, none⟩

def fetchLogs (agentUrl containerId : String) (tail : Nat) :
    DeploymentProgram (Except String String) := do
  match ← containerLogs agentUrl containerId tail with
  | .error (.raised message) => return .error message
  | .error failure => return .ok s!"(logs unavailable: {failure.message})"
  | .ok logs => return .ok logs

end AiPlatform.Deployments
