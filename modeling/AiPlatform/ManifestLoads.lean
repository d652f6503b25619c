import AiPlatform.ModelNames

/-!
A directory of model manifests that is loaded in one transaction. A file that is
reported as an error leaves the rows, so the directory loads as it would without
that file. What the load registers, updates and lists as aliases takes no
manifest its name and no alias away.
-/

namespace AiPlatform.Serving

open Agents (strip truthy)
open Deployments (externalRuntimes)

variable {settings : Settings} {scan : String → DirectoryScan} {now : Int}
  {catalogue after : Catalogue}

/-- What is reported of a file that is left out: YAML that cannot be read, or a
mapping without a name. -/
def Manifest.failure (manifest : Manifest) : Option ImportResult :=
  match manifest.content with
  | .malformed failure =>
      some ⟨manifest.filename, "ERROR", 0, 0, 0, some s!"Malformed YAML: {failure}"⟩
  | .noMapping => none
  | .mapping spec =>
      if spec.name.filter truthy = none then
        some ⟨manifest.filename, "ERROR", 0, 0, 0, some "Manifest has no 'name'."⟩
      else none

theorem loadManifest_failure {manifest : Manifest} {report : ImportResult}
    (failure : manifest.failure = some report) :
    loadManifest settings scan now catalogue manifest = .ok (report, catalogue) := by
  unfold Manifest.failure at failure
  unfold loadManifest
  cases content : manifest.content with
  | malformed text =>
      rw [content] at failure
      rw [← Option.some.inj failure]
  | noMapping =>
      rw [content] at failure
      cases failure
  | mapping spec =>
      simp only [content] at failure
      split at failure
      · rename_i nameless
        rw [← Option.some.inj failure]
        simp only [nameless]
      · cases failure

theorem failure_status {manifest : Manifest} {report : ImportResult}
    (failure : manifest.failure = some report) :
    report.modelName = manifest.filename ∧ report.status = "ERROR" := by
  unfold Manifest.failure at failure
  split at failure
  · cases failure
    exact ⟨rfl, rfl⟩
  · cases failure
  · split at failure
    · cases failure
      exact ⟨rfl, rfl⟩
    · cases failure

-- Whatever the other files come to, also when one of them raises.
theorem loadManifests_without {files others : List Manifest} {broken : Manifest}
    {report : ImportResult} (failure : broken.failure = some report) :
    loadManifests settings scan now (files ++ broken :: others) catalogue =
      (loadManifests settings scan now (files ++ others) catalogue).map fun loaded =>
        (loaded.1.insertIdx files.length report, loaded.2) := by
  induction files generalizing catalogue with
  | nil =>
      simp only [List.nil_append, loadManifests, loadManifest_failure failure, Bind.bind,
        Except.bind]
      cases loadManifests settings scan now others catalogue <;> rfl
  | cons file rest ih =>
      simp only [List.cons_append, loadManifests]
      cases loadManifest settings scan now catalogue file with
      | error refusal => rfl
      | ok first =>
          simp only [Bind.bind, Except.bind, ih]
          cases loadManifests settings scan now (rest ++ others) first.2 <;> rfl

def Manifest.Reports (manifest : Manifest) (result : ImportResult) : Prop :=
  manifest.failure = some result ∨ manifest.failure = none ∧ result.status ≠ "ERROR"

theorem scanReport_status (model : Model) (found : DirectoryScan) :
    (scanReport model found).status ≠ "ERROR" := by
  have reported : (scanReport model found).status = (scannedStatus model found).1.text := by
    unfold scanReport
    cases scannedStatus model found
    simp only
    split
    · rfl
    · split <;> rfl
  rw [reported]
  cases (scannedStatus model found).1 <;> decide

/-- What a manifest says can be registered under a new name. A manifest gives no
endpoint, so its runtime is one that the platform starts. -/
structure ModelSpec.Registrable (spec : ModelSpec) : Prop where
  known : spec.type ∈ modelTypes
  internal : spec.external = false
  stored : strip spec.storagePath ≠ ""

/-- The registry can take the file as it stands: a mapping that is registered, or
can be, and of whose aliases none is there but not enabled. -/
def Catalogue.Takes (catalogue : Catalogue) (settings : Settings) (manifest : Manifest) : Prop :=
  ∃ spec, manifest.content = .mapping spec ∧
    ∀ name, spec.name.filter truthy = some name →
      ((catalogue.modelByName name).isSome ∨ (spec.registration settings name).Registrable) ∧
        ∀ entry ∈ catalogue.aliases, entry.aliasName ∈ spec.aliases → entry.enabled = true

structure Catalogue.Grows (catalogue after : Catalogue) : Prop where
  names : ∀ name, (catalogue.modelByName name).isSome → (after.modelByName name).isSome
  kept : ∀ entry ∈ catalogue.aliases, entry ∈ after.aliases
  added : ∀ entry ∈ after.aliases, entry ∈ catalogue.aliases ∨ entry.enabled = true

namespace Catalogue

theorem Grows.refl (catalogue : Catalogue) : catalogue.Grows catalogue :=
  ⟨fun _ known => known, fun _ member => member, fun _ member => .inl member⟩

theorem Grows.trans {middle : Catalogue} (first : catalogue.Grows middle)
    (second : middle.Grows after) : catalogue.Grows after where
  names name known := second.names name (first.names name known)
  kept entry member := second.kept entry (first.kept entry member)
  added entry member := by
    rcases second.added entry member with before | enabled
    · exact first.added entry before
    · exact .inr enabled

theorem Takes.grown {manifest : Manifest} (takes : catalogue.Takes settings manifest)
    (grows : catalogue.Grows after) : after.Takes settings manifest := by
  obtain ⟨spec, readable, usable⟩ := takes
  refine ⟨spec, readable, fun name named => ?_⟩
  obtain ⟨known, enabled⟩ := usable name named
  constructor
  · exact known.imp (grows.names name) id
  · intro entry member listed
    rcases grows.added entry member with before | new
    · exact enabled entry before listed
    · exact new

theorem modelByName_isSome {name : String} :
    (catalogue.modelByName name).isSome ↔ ∃ model ∈ catalogue.models, model.name = name := by
  constructor
  · intro known
    obtain ⟨model, found⟩ := Option.isSome_iff_exists.mp known
    exact ⟨model, Rows.get_some found⟩
  · rintro ⟨model, member, named⟩
    by_contra unknown
    exact Rows.get_none.mp (Option.not_isSome_iff_eq_none.mp unknown) model member named

theorem grows_amended {id : Nat} {change : Model → Model}
    (names : ∀ model, (change model).name = model.name) :
    catalogue.Grows (catalogue.amendModel id change) := by
  refine ⟨fun name known => ?_, fun _ member => member, fun _ member => .inl member⟩
  obtain ⟨model, member, named⟩ := modelByName_isSome.mp known
  rw [modelByName_isSome]
  by_cases keyed : model.id = id
  · exact ⟨change model, Rows.mem_amend.mpr (.inl ⟨model, member, keyed, rfl⟩),
      (names model).trans named⟩
  · exact ⟨model, Rows.mem_amend.mpr (.inr ⟨member, keyed⟩), named⟩

theorem grows_registered (spec : ModelSpec) : catalogue.Grows (catalogue.addModel spec) := by
  refine ⟨fun name known => ?_, fun _ member => member, fun _ member => .inl member⟩
  obtain ⟨model, member, named⟩ := modelByName_isSome.mp known
  exact modelByName_isSome.mpr ⟨model, List.mem_append_left _ member, named⟩

end Catalogue

theorem raiseIf_pass {condition : Prop} [Decidable condition] {refusal : Refusal}
    (fails : ¬ condition) : raiseIf condition refusal = .ok () :=
  raiseIf_ok.mpr fails

theorem registerModel_registrable {spec : ModelSpec} (free : catalogue.modelByName spec.name = none)
    (unserved : spec.endpointUrl = none) (registrable : spec.Registrable) :
    registerModel settings catalogue spec =
      .ok (spec.model catalogue.nextId, catalogue.addModel spec) := by
  obtain ⟨known, internal, stored⟩ := registrable
  have ungiven : given spec.endpointUrl = false := by
    rw [unserved]
    rfl
  have fresh : ¬ (catalogue.modelByName spec.name).isSome := by simp [free]
  unfold registerModel checkEndpoint
  rw [raiseIf_pass fresh, raiseIf_pass (not_not.mpr known)]
  simp only [internal, ungiven]
  rw [raiseIf_pass (by simp), raiseIf_pass (by simp), raiseIf_pass (by simp [stored])]
  rfl

theorem convergeModel_takes {manifest : ManifestSpec} {name : String}
    (known : (catalogue.modelByName name).isSome ∨
      (manifest.registration settings name).Registrable) :
    ∃ modelId after, convergeModel settings catalogue manifest name = .ok (modelId, after) ∧
      catalogue.Grows after ∧ (after.modelById modelId).isSome := by
  unfold convergeModel
  cases found : catalogue.modelByName name with
  | some existing =>
      refine ⟨_, _, rfl, Catalogue.grows_amended fun model => rfl, ?_⟩
      have member := (Rows.get_some found).1
      by_contra unknown
      exact Rows.get_none.mp (Option.not_isSome_iff_eq_none.mp unknown) (manifest.update existing)
        (Rows.mem_amend.mpr (.inl ⟨existing, member, rfl, rfl⟩)) rfl
  | none =>
      have registrable := known.resolve_left (by simp [found])
      simp only [registerModel_registrable found rfl registrable]
      refine ⟨_, _, rfl, Catalogue.grows_registered _, ?_⟩
      by_contra unknown
      exact Rows.get_none.mp (Option.not_isSome_iff_eq_none.mp unknown) _
        (List.mem_append_right _ (List.mem_singleton_self _)) rfl

theorem importFromDisk_takes {modelId : Nat} (known : (catalogue.modelById modelId).isSome) :
    ∃ result after, importFromDisk catalogue modelId scan = .ok (result, after) ∧
      catalogue.Grows after ∧ result.status ≠ "ERROR" := by
  obtain ⟨model, found⟩ := Option.isSome_iff_exists.mp known
  unfold importFromDisk
  rw [found]
  exact ⟨_, _, rfl, Catalogue.grows_amended fun model => rfl, scanReport_status model _⟩

theorem aliasByName_none {name : String} (free : catalogue.aliasByName name = none) :
    ∀ entry ∈ catalogue.aliases, entry.aliasName = name → entry.enabled = false := by
  intro entry member named
  have missed := List.find?_eq_none.mp free entry member
  simpa [named] using missed

-- An alias that the look-up misses is not there at all, because those of the
-- manifests that are there are enabled.
theorem addAliases_takes {filename : String} {modelId : Nat} {names : List String}
    (enabled : ∀ entry ∈ catalogue.aliases, entry.aliasName ∈ names → entry.enabled = true) :
    ∃ after, addAliases filename modelId now names catalogue = .ok after ∧
      catalogue.Grows after := by
  induction names generalizing catalogue with
  | nil => exact ⟨catalogue, rfl, .refl catalogue⟩
  | cons name rest ih =>
      unfold addAliases
      cases found : catalogue.aliasByName name with
      | some existing =>
          exact ih fun entry member listed => enabled entry member (List.mem_cons_of_mem _ listed)
      | none =>
          have free : ¬ (catalogue.aliases.any fun entry => entry.aliasName = name) = true := by
            intro taken
            obtain ⟨entry, member, named⟩ := List.any_eq_true.mp taken
            have same : entry.aliasName = name := of_decide_eq_true named
            have missed := aliasByName_none found entry member same
            have seen := enabled entry member (same ▸ List.mem_cons_self)
            exact absurd (missed.symm.trans seen) (by decide)
          simp only [Catalogue.addAlias, raiseIf_pass free]
          let record : ModelAlias := ⟨catalogue.nextId, name, modelId,
            some s!"From manifest {filename}", true, now⟩
          let added : Catalogue := { catalogue with
            aliases := catalogue.aliases ++ [record], nextId := catalogue.nextId + 1 }
          have grows : catalogue.Grows added := by
            refine ⟨fun _ known => known, fun _ member => List.mem_append_left _ member, ?_⟩
            intro entry member
            rcases List.mem_append.mp member with old | new
            · exact .inl old
            · rw [List.mem_singleton.mp new]
              exact .inr rfl
          have later : ∀ entry ∈ added.aliases, entry.aliasName ∈ rest → entry.enabled = true := by
            intro entry member listed
            rcases grows.added entry member with old | new
            · exact enabled entry old (List.mem_cons_of_mem _ listed)
            · exact new
          obtain ⟨after, done, grown⟩ := ih later
          exact ⟨after, done, grows.trans grown⟩

theorem loadManifest_takes {manifest : Manifest} (takes : catalogue.Takes settings manifest)
    (unbroken : manifest.failure = none) :
    ∃ result after, loadManifest settings scan now catalogue manifest = .ok (result, after) ∧
      manifest.Reports result ∧ catalogue.Grows after := by
  obtain ⟨spec, readable, usable⟩ := id takes
  unfold loadManifest
  simp only [readable]
  cases named : spec.name.filter truthy with
  | none =>
      unfold Manifest.failure at unbroken
      simp [readable, named] at unbroken
  | some name =>
      obtain ⟨known, _⟩ := usable name named
      obtain ⟨modelId, converged, first, grown, listed⟩ := convergeModel_takes known
      have imported : ∃ result scanned,
          importFromDisk converged modelId scan = .ok (result, scanned) ∧
            converged.Grows scanned ∧ result.status ≠ "ERROR" := importFromDisk_takes listed
      obtain ⟨result, scanned, second, regrown, fine⟩ := imported
      have still := takes.grown (grown.trans regrown)
      obtain ⟨spec', readable', usable'⟩ := still
      obtain rfl : spec = spec' := by
        rw [readable] at readable'
        exact ManifestContent.mapping.inj readable'
      have aliased : ∃ after,
          addAliases manifest.filename modelId now spec.aliases scanned = .ok after ∧
            scanned.Grows after := addAliases_takes (usable' name named).2
      obtain ⟨after, third, last⟩ := aliased
      simp only [first, second, third, Bind.bind, Except.bind]
      exact ⟨result, after, rfl, .inr ⟨unbroken, fine⟩, (grown.trans regrown).trans last⟩

theorem loadManifests_takes {manifests : List Manifest}
    (takes : ∀ manifest ∈ manifests, manifest.failure = none → catalogue.Takes settings manifest) :
    ∃ results after, loadManifests settings scan now manifests catalogue = .ok (results, after) ∧
      List.Forall₂ Manifest.Reports manifests results ∧ catalogue.Grows after := by
  induction manifests generalizing catalogue with
  | nil => exact ⟨[], catalogue, rfl, .nil, .refl catalogue⟩
  | cons manifest rest ih =>
      have first : ∃ result middle,
          loadManifest settings scan now catalogue manifest = .ok (result, middle) ∧
            manifest.Reports result ∧ catalogue.Grows middle := by
        cases failure : manifest.failure with
        | some report =>
            exact ⟨report, catalogue, loadManifest_failure failure, .inl failure, .refl catalogue⟩
        | none => exact loadManifest_takes (takes manifest List.mem_cons_self failure) failure
      obtain ⟨result, middle, loaded, reports, grows⟩ := first
      have later : ∀ other ∈ rest, other.failure = none → middle.Takes settings other :=
        fun other member usable =>
          (takes other (List.mem_cons_of_mem _ member) usable).grown grows
      obtain ⟨results, after, done, others, grown⟩ := ih later
      simp only [loadManifests, loaded, done, Bind.bind, Except.bind]
      exact ⟨result :: results, after, rfl, .cons reports others, grows.trans grown⟩

def describes (name : String) (kind : Option String) (aliases : List String) : Manifest :=
  ⟨name ++ ".yaml", .mapping ⟨some name, none, kind, none, none, none, none, none, none, none,
    none, none, none, [], aliases⟩⟩

def broken : Manifest := ⟨"broken.yaml", .malformed "found unexpected end of stream"⟩

end AiPlatform.Serving
