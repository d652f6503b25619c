import AiPlatform.AgentModel
import AiPlatform.Assignments
import Mathlib.Data.List.Infix

/-!
The offline bundle: `scripts/build_bundle.py`, which saves the images of the services with
a manifest, and the functions of `offline/lib.sh` that verify a bundle, load its images,
name them and point Compose at the names. Docker answers on the build machine as the
daemon there does, and on the target it keeps a store of images.
-/

namespace AiPlatform.Bundles

open Agents (truthy)

/-- What `docker image inspect` tells of an image. -/
structure Image where
  id : String
  repoDigests : List String

/-- Docker on the build machine; `save` writes no archive if it fails. -/
structure Daemon (Content : Type) where
  inspect : String → Option Image
  save : String → Option Content

structure Loaded (Name : Type) where
  ids : List String
  tags : List (Name × String)

/-- How Docker reads an archive, and the name that a text is where it may be one; two
texts can be one name. -/
structure Engine (Content Name : Type) where
  load : Content → Option (Loaded Name)
  reference : String → Option Name

structure Store (Name : Type) where
  ids : List String
  names : Name → Option String

section Commands

variable {Content Name : Type} [DecidableEq Name] (engine : Engine Content Name)

/-- `docker load` -/
def dockerLoad (content : Content) (store : Store Name) : Option (Store Name) :=
  (engine.load content).map fun loaded =>
    ⟨store.ids ++ loaded.ids, Assignments.assign store.names loaded.tags⟩

/-- `docker tag`, with an image ID for its source. -/
def dockerTag (imageId tag : String) (store : Store Name) : Option (Store Name) :=
  match engine.reference tag with
  | none => none
  | some name =>
      if imageId ∈ store.ids then
        some { store with names := Function.update store.names name (some imageId) }
      else none

def Store.denotes (store : Store Name) (text : String) : Option String :=
  (engine.reference text).bind store.names

end Commands

def bundledServices : List String :=
  ["postgres", "valkey", "qdrant", "minio", "nginx", "backend", "node-agent", "mock-vllm",
    "ldap-mcp"]

/-- `NEVER_BUNDLE`, with the reasons. -/
def neverBundle : List (String × String) :=
  [("oidc-fixture", "a fixture identity provider that authenticates nobody — it issues a signed " ++
    "token to any caller, and exists only so SSO is testable without a Keycloak")]

/-- `OPTIONAL_GROUPS` -/
def chatGroup : List String := ["open-webui"]

def monitoringGroup : List String :=
  ["prometheus", "loki", "tempo", "grafana", "alloy", "langfuse"]

structure Options where
  models : Bool
  withChat : Bool
  withMonitoring : Bool

def Options.extra (options : Options) : List String :=
  (if options.withChat then chatGroup else []) ++
    (if options.withMonitoring then monitoringGroup else [])

def wanted (extraServices : List String) : List String :=
  bundledServices ++ extraServices.filter fun service => service ∉ bundledServices

/-- What `docker compose config` tells; `none` if it fails. -/
abbrev ComposeConfig := Option (List (String × Option String))

def composeImages : ComposeConfig → List (String × String)
  | none => []
  | some services => services.filterMap fun service =>
      match service.2 with
      | some image => if truthy image then some (service.1, image) else none
      | none => none

/-- `"@sha256:" in image` -/
def pinned (image : String) : Bool :=
  image.toList.tails.any fun tail => "@sha256:".toList.isPrefixOf tail

/-- `image.split("@", 1)[0]` -/
def beforeAt (image : String) : List Char := image.toList.takeWhile (· ≠ '@')

/-- `reference.rsplit("/", 1)[-1]` -/
def lastComponent (reference : List Char) : List Char :=
  (reference.reverse.takeWhile (· ≠ '/')).reverse

def localTagFor (image : String) : String :=
  let reference := beforeAt image
  if ':' ∈ lastComponent reference then String.ofList reference
  else String.ofList reference ++ ":bundled"

section Build

variable {Content : Type} (daemon : Daemon Content) (sha256 : Content → String)

def Daemon.imageId (image : String) : Option String :=
  (daemon.inspect image).bind fun found => if truthy found.id then some found.id else none

def Daemon.resolveDigest (image : String) : Option String :=
  if pinned image then some image
  else
    match (daemon.inspect image).map Image.repoDigests with
    | some (reference :: _) => if truthy reference then some reference else daemon.imageId image
    | _ => daemon.imageId image

/-- An entry of the manifest's `images`. -/
structure ImageEntry where
  image : String
  digest : String
  imageId : String
  localTag : String
  archive : String
  sha256 : String

/-- An entry of the manifest's `models`, with the digests of its files. -/
structure ModelEntry where
  path : String
  files : List (String × String)

structure Manifest where
  images : List (String × ImageEntry)
  models : List (String × ModelEntry)

/-- A bundle directory: the manifest, the archives in `images` by the names before `.tar`,
and the files of the models by path. -/
structure Bundle (Content : Type) where
  manifest : Manifest
  archives : List (String × Content)
  weights : List (String × Content)

def archivePath (service : String) : String := s!"images/{service}.tar"

/-- What the loop of `save_images` makes of a service: nothing where it is skipped. -/
def saveImage (resolved : List (String × String)) (service : String) :
    Except String (Option (String × ImageEntry × Content)) :=
  match resolved.lookup service with
  | none => .ok none
  | some image =>
      match daemon.resolveDigest image with
      | none => .ok none
      | some digest =>
          match daemon.imageId image with
          | none => .error s!"{service}: {image} has no config ID. Refusing to guess."
          | some identifier =>
              match daemon.save digest with
              | none => .error s!"Could not save '{service}'. Refusing to write a partial bundle."
              | some content =>
                  .ok (some (service,
                    ⟨image, digest, identifier, localTagFor image, archivePath service,
                      sha256 content⟩, content))

def saveEach (resolved : List (String × String)) :
    List String → Except String (List (String × ImageEntry × Content))
  | [] => .ok []
  | service :: rest =>
      match saveImage daemon sha256 resolved service with
      | .error message => .error message
      | .ok saved => (saveEach resolved rest).map (saved.toList ++ ·)

def saveImages (config : ComposeConfig) (extraServices : List String) :
    Except String (List (String × ImageEntry × Content)) :=
  let resolved := composeImages config
  if resolved.isEmpty then
    .error ("Compose resolved no services at all. A bundle with no images would still be written " ++
      "and would fail only on the target, so this stops here instead.")
  else
    match neverBundle.find? fun entry => entry.1 ∈ wanted extraServices with
    | some (service, reason) =>
        .error s!"'{service}' is in the bundle list but must never be bundled: {reason}"
    | none => saveEach daemon sha256 resolved (wanted extraServices)

/-- `copy_models`: the directories of models, each with its files. -/
def copyModels (root : List (String × List (String × Content))) :
    List (String × ModelEntry) × List (String × Content) :=
  (root.map fun (name, files) =>
    (name, ⟨s!"models/{name}", files.map fun file => (file.1, sha256 file.2)⟩),
    root.flatMap fun (name, files) => files.map fun (relative, content) =>
      (s!"models/{name}/{relative}", content))

/-- `main`, where it is no dry run; `others` is what the wheels, the tree and the
installers come to. -/
def main (config : ComposeConfig) (options : Options) (others : Except String Unit)
    (models : List (String × List (String × Content))) : Except String (Bundle Content) :=
  match saveImages daemon sha256 config options.extra, others with
  | .error message, _ => .error message
  | .ok _, .error message => .error message
  | .ok saved, .ok () =>
      let copied := if options.models then copyModels sha256 models else ([], [])
      .ok
        { manifest := ⟨saved.map fun entry => (entry.1, entry.2.1), copied.1⟩
          archives := saved.map fun entry => (entry.1, entry.2.2)
          weights := copied.2 }

end Build

section Target

variable {Content Name : Type} [DecidableEq Name]

def chosen (services : List String) (service : String) : Bool :=
  services.isEmpty || services.contains service

/-- The file at a path in `images`. -/
def Bundle.archive (bundle : Bundle Content) (path : String) : Option Content :=
  (bundle.archives.find? fun file => archivePath file.1 = path).map Prod.snd

def imageProblem (sha256 : Content → String) (bundle : Bundle Content) (service : String)
    (entry : ImageEntry) : Option String :=
  match bundle.archive entry.archive with
  | none =>
      let archive := entry.archive
      some s!"{service}: {archive} is missing"
  | some content =>
      if sha256 content ≠ entry.sha256 then
        some s!"{service}: checksum mismatch — the archive changed since it was built"
      else none

def weightProblem (sha256 : Content → String) (bundle : Bundle Content) (name root : String)
    (file : String × String) : Option String :=
  let relative := file.1
  match bundle.weights.lookup s!"{root}/{relative}" with
  | none => some s!"model {name}: {relative} is missing"
  | some content =>
      if sha256 content ≠ file.2 then some s!"model {name}: {relative} is corrupt" else none

/-- The problems that `verify_bundle` finds; it dies of any. -/
def verifyBundle (sha256 : Content → String) (bundle : Bundle Content) (services : List String) :
    List String :=
  (bundle.manifest.images.filterMap fun entry =>
    if chosen services entry.1 then imageProblem sha256 bundle entry.1 entry.2 else none) ++
  if services.isEmpty then
    bundle.manifest.models.flatMap fun model =>
      model.2.files.filterMap (weightProblem sha256 bundle model.1 model.2.path)
  else []

def loadEach (engine : Engine Content Name) (services : List String) :
    List (String × Content) → Store Name → Option (Store Name)
  | [], store => some store
  | (name, content) :: rest, store =>
      if chosen services name then
        match dockerLoad engine content store with
        | none => none
        | some after => loadEach engine services rest after
      else loadEach engine services rest store

def loadImages (engine : Engine Content Name) (bundle : Bundle Content) (services : List String)
    (store : Store Name) : Option (Store Name) :=
  if bundle.archives.isEmpty then none else loadEach engine services bundle.archives store

def nameEach (engine : Engine Content Name) (services : List String) :
    List (String × ImageEntry) → Store Name → Option (Store Name)
  | [], store => some store
  | (service, entry) :: rest, store =>
      if chosen services service then
        match dockerTag engine entry.imageId entry.localTag store with
        | none => none
        | some after => nameEach engine services rest after
      else nameEach engine services rest store

def nameImages (engine : Engine Content Name) (bundle : Bundle Content) (services : List String)
    (store : Store Name) : Option (Store Name) :=
  nameEach engine services bundle.manifest.images store

structure ServiceOverride where
  image : String
  pullPolicy : String

/-- The services of the file that `write_override` writes. -/
def writeOverride (bundle : Bundle Content) : List (String × ServiceOverride) :=
  bundle.manifest.images.map fun entry => (entry.1, ⟨entry.2.localTag, "never"⟩)

/-- `load_images` and `name_images`, as the installer calls them. -/
def install (engine : Engine Content Name) (bundle : Bundle Content) (store : Store Name) :
    Option (Store Name) :=
  (loadImages engine bundle [] store).bind (nameImages engine bundle [])

end Target

end AiPlatform.Bundles
