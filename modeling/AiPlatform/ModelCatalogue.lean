import AiPlatform.ToolDefinitions
import AiPlatform.DeploymentModel
import AiPlatform.Histories
import AiPlatform.Urls

/-!
The rows of the model registry: models, aliases and deployments, with the
lookups of `app/repositories/models_registry.py`. The rows stand in order of
creation, which is the order the deployments of a model are asked for in. The
files of a model are left out, which only its import from disk writes.
-/

namespace AiPlatform.Serving

open Agents (Json Dict strip truthy)
open Deployments (ModelStatus ModelDeployment DeploymentState externalRuntimes)

structure Model where
  id : Nat
  name : String
  displayName : String
  version : String
  type : String
  architecture : Option String
  parameterCount : Option Nat
  quantization : Option String
  contextLength : Option Nat
  storagePath : String
  runtime : String
  endpointUrl : Option String
  requiredGpuMemoryMib : Option Nat
  minGpuCount : Nat
  status : ModelStatus
  statusDetail : Option String
  description : Option String
  metadata : Dict

structure ModelAlias where
  id : Nat
  aliasName : String
  modelId : Nat
  description : Option String
  enabled : Bool
  createdAt : Int

structure DeploymentRow extends ModelDeployment where
  createdAt : Int

structure Catalogue where
  models : List Model
  aliases : List ModelAlias
  deployments : List DeploymentRow
  nextId : Nat

def Catalogue.empty : Catalogue := ⟨[], [], [], 0⟩

/-- What the services are configured with and take from their surroundings:
`str` of a value that is not text, lower case, and the checks of the URL parser
that can only raise. -/
structure Settings extends Deployments.Settings where
  str : Json → String
  lower : String → String
  validAuthority : List Char → Bool
  ollamaEndpoint : String
  rootPath : String

/-- `removeprefix`, where the text has the prefix. -/
def afterPrefix (start text : String) : Option String :=
  if start.toList <+: text.toList then some (String.ofList (text.toList.drop start.length))
  else none

def Model.servedModelName (settings : Settings) (model : Model) : String :=
  match (model.metadata.get "ollama_tag").filter Json.truthy with
  | some (.str original) => original
  | some original => settings.str original
  | none =>
      ((afterPrefix "ollama://" model.storagePath).or
        (afterPrefix "external://" model.storagePath)).getD model.name

namespace Catalogue

/-- `get_by_name` -/
def modelByName (catalogue : Catalogue) (name : String) : Option Model :=
  Rows.get Model.name catalogue.models name

def modelById (catalogue : Catalogue) (id : Nat) : Option Model :=
  Rows.get Model.id catalogue.models id

/-- `get_by_alias`: an alias that is not enabled is not found. -/
def aliasByName (catalogue : Catalogue) (name : String) : Option ModelAlias :=
  catalogue.aliases.find? fun entry => entry.aliasName = name && entry.enabled

def aliasById (catalogue : Catalogue) (id : Nat) : Option ModelAlias :=
  Rows.get ModelAlias.id catalogue.aliases id

def servingForModel (catalogue : Catalogue) (modelId : Nat) : List DeploymentRow :=
  catalogue.deployments.filter fun row => row.modelId = modelId && row.state = .running

structure Sound (catalogue : Catalogue) : Prop where
  modelIds : (catalogue.models.map Model.id).Nodup
  names : (catalogue.models.map Model.name).Nodup
  aliases : (catalogue.aliases.map ModelAlias.aliasName).Nodup
  aliased : ∀ entry ∈ catalogue.aliases, ∃ model ∈ catalogue.models, model.id = entry.modelId
  deployed : ∀ row ∈ catalogue.deployments, ∃ model ∈ catalogue.models, model.id = row.modelId
  below : ∀ model ∈ catalogue.models, model.id < catalogue.nextId

end Catalogue

end AiPlatform.Serving
