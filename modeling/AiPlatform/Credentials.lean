import AiPlatform.AgentOwnership

/-!
Executor calls and the credentials they carry. The pipeline projects a tool row
with `_definition`, on the direct path as on the approved one, and the credential
stored for the tool is not part of that projection.
-/

namespace AiPlatform.Agents

theorem calls_induction {ok : AgentSystem → AgentLabel → Prop} {registry : Registry}
    (holds : Call → Prop)
    (made : ∀ (system : AgentSystem) i session executionId tool invocation,
      Reached ok registry system →
      system.Performing i (.execute executionId tool invocation) session →
      session.MayExecute executionId tool invocation →
      holds (system.shared.call i session executionId tool invocation)) :
    ∀ system, Reached ok registry system → ∀ call ∈ system.shared.calls, holds call := by
  refine System.reaches_induction
    (fun system : AgentSystem => ∀ call ∈ system.shared.calls, holds call)
    (fun call member => by cases member) ?_
  intro system label next reached earlier _ transition call member
  have kept := agentDiscipline.kept_reached (fun _ => rfl) system reached
  have step := effect transition
  generalize next.shared = after at step member
  cases step with
  | unchanged => exact earlier call member
  | reacted i answer op session reply _ performing reacts =>
      rw [(reaction reacts).calls] at member
      rcases List.mem_append.mp member with before | now
      · exact earlier call before
      · cases op with
        | execute executionId tool invocation =>
            rw [List.mem_singleton.mp now]
            exact made system i session executionId tool invocation reached performing
              (kept.allowed performing)
        | _ => cases now
  | committed i session _ ending done =>
      rw [done.calls] at member
      exact earlier call member
  | released i session live => exact earlier call member
  | edited change => exact earlier call member

theorem mayExecute_projected {session : Session} {executionId : Nat} {tool : Tool}
    {invocation : ToolInvocation} (may : session.MayExecute executionId tool invocation) :
    invocation.tool = definition tool := by
  cases may with
  | direct run execution tracked streams member keyed inserted authorised read projected =>
      exact projected
  | approved run execution tracked streams only keyed loaded decided waiting held begun unexecuted
      approves read named projected => exact projected

/-- The credential of the tool is where an executor looks for it: the row has
none, or its `config` holds the stored one under the private key. -/
def CredentialInConfig (tool : Tool) (server : Option McpServer) : Prop :=
  match storedCredential tool server with
  | none => ∀ value, tool.config.get credentialKey = some value → value.truthy = false
  | some text => tool.config.get credentialKey = some (.str text)

/-- A definition that was executed carries the credential stored for its tool,
authenticates the request exactly when there is one, and agrees with the
definition that was validated and with the one that was frozen into the spec. -/
structure Credentialed (tool : Tool) (server : Option McpServer) (executed : ToolDefinition) :
    Prop where
  carried : carriedCredential executed = (storedCredential tool server).map .str
  authenticated : ∀ (str : Json → String) (decrypt : String → Option String),
    (∀ text, storedCredential tool server = some text →
      (decrypt (str (.str text))).isSome = true) →
    ((restAuthHeaders str decrypt executed ≠ [] ↔
        (storedCredential tool server).isSome = true) ∧
      (mcpAuthHeaders str decrypt executed ≠ [] ↔
        (storedCredential tool server).isSome = true))
  validated : executed = withCredentials tool
  frozen : { executed with config := [] } = { specDefinition tool with config := [] } ∧
    ∀ key, key ≠ toolIdKey → executed.config.get key = (specDefinition tool).config.get key

theorem storedCredential_truthy {tool : Tool} {server : Option McpServer} {text : String}
    (stored : storedCredential tool server = some text) : truthy text = true := by
  rcases Option.or_eq_some_iff.mp stored with own | ⟨_, theirs⟩
  · exact (Option.filter_eq_some_iff.mp own).2
  · exact (Option.filter_eq_some_iff.mp theirs).2

theorem carried_iff (tool : Tool) (server : Option McpServer) :
    carriedCredential (definition tool) = (storedCredential tool server).map .str ↔
      CredentialInConfig tool server := by
  unfold carriedCredential CredentialInConfig
  simp only [definition]
  cases stored : storedCredential tool server with
  | none =>
      rw [Option.map_none, Option.filter_eq_none_iff]
      constructor
      · intro falsy value found
        exact Bool.eq_false_of_not_eq_true (falsy value found)
      · intro falsy value found
        simp [falsy value found]
  | some text =>
      rw [Option.map_some, Option.filter_eq_some_iff]
      exact and_iff_left (storedCredential_truthy stored)

theorem setCredential_inConfig {tool : Tool} {server : Option McpServer}
    (holds : CredentialInConfig tool server) :
    setCredential tool.credentialsEncrypted tool.config = tool.config := by
  rw [setCredential_eq]
  cases own : tool.credentialsEncrypted.filter truthy with
  | none => rfl
  | some text =>
      have stored : storedCredential tool server = some text := by
        rw [storedCredential, own]
        rfl
      rw [CredentialInConfig, stored] at holds
      exact Dict.set_get _ holds

theorem credentialed_iff (tool : Tool) (server : Option McpServer) :
    Credentialed tool server (definition tool) ↔ CredentialInConfig tool server := by
  constructor
  · intro credentialed
    exact (carried_iff tool server).mp credentialed.carried
  · intro holds
    have carried := (carried_iff tool server).mpr holds
    have same := setCredential_inConfig holds
    refine ⟨carried, ?_, ?_, ⟨rfl, ?_⟩⟩
    · intro str decrypt decrypts
      have opens : ∀ encrypted, carriedCredential (definition tool) = some encrypted →
          (decrypt (str encrypted)).isSome = true := by
        intro encrypted found
        rw [carried] at found
        obtain ⟨text, stored, rfl⟩ := Option.map_eq_some_iff.mp found
        exact decrypts text stored
      rw [rest_authenticated str decrypt _ opens, mcp_authenticated str decrypt _ opens, carried,
        Option.isSome_map]
      exact ⟨Iff.rfl, Iff.rfl⟩
    · simp only [withCredentials, same]
      rfl
    · intro key other
      have untouched := Dict.get_set_other tool.config (.uuid tool.id) other
      have written := setCredential_congr tool.credentialsEncrypted untouched
      rw [same] at written
      exact written.symm

/-- Every definition that reaches an executor, directly or after an approval,
is credentialed exactly when the credential stands in the config of the row. -/
theorem executed_credentialed_iff (registry : Registry) (system : AgentSystem)
    (reached : Reached anyStep registry system) :
    ∀ call ∈ system.shared.calls,
      Credentialed call.tool call.server call.invocation.tool ↔
        CredentialInConfig call.tool call.server := by
  refine calls_induction (fun call => Credentialed call.tool call.server call.invocation.tool ↔
    CredentialInConfig call.tool call.server) ?_ system reached
  intro system i session executionId tool invocation _ _ may
  simp only [Shared.call]
  rw [mayExecute_projected may]
  exact credentialed_iff _ _

/-- A call without and a call with an approval. -/
theorem executed_credentialed_iff_lookup : ∃ system : AgentSystem,
    system.shared.calls.map (·.direct) = [true, false] ∧ ∀ call ∈ system.shared.calls,
      Credentialed call.tool call.server call.invocation.tool ↔
        CredentialInConfig call.tool call.server := by
  obtain ⟨system, reached, checked⟩ := reached_checked anyStep desk
    (starts 0 openPolicy (asks [lookupCall "c1"]) ++ calls 0 ++ starts 1 policy
      (asks [lookupCall "c2"]) ++ suspends 1 ++ [.commit 1] ++ reviews 2 2 true ++ decides 2 ++
      executes 2)
    (fun system => system.shared.calls.map (·.direct) = [true, false]) (by decide +kernel)
  exact ⟨system, of_decide_eq_true checked, executed_credentialed_iff desk system reached⟩

/-- A credential is stored for the tool, and the executor does not get it. -/
theorem executed_without_credential : ∃ system : AgentSystem, Reached anyStep desk system ∧
    ∃ call ∈ system.shared.calls, storedCredential call.tool call.server = some "sealed" ∧
      carriedCredential call.invocation.tool = none ∧
      ¬ Credentialed call.tool call.server call.invocation.tool := by
  obtain ⟨system, reached, checked⟩ := reached_checked anyStep desk
    (starts 0 openPolicy (asks [lookupCall "c1"]) ++ calls 0)
    (fun system => system.shared.calls.any fun call =>
      storedCredential call.tool call.server = some "sealed" &&
        (carriedCredential call.invocation.tool).isNone)
    (by decide +kernel)
  obtain ⟨call, member, shape⟩ := List.any_eq_true.mp checked
  obtain ⟨stored, bare⟩ := Bool.and_eq_true_iff.mp shape
  have sealed' := of_decide_eq_true stored
  have nothing := Option.isNone_iff_eq_none.mp bare
  refine ⟨system, reached, call, member, sealed', nothing, fun credentialed => ?_⟩
  have carried := credentialed.carried
  rw [sealed', nothing] at carried
  cases carried

end AiPlatform.Agents
