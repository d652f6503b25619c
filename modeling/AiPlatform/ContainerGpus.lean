import AiPlatform.Placements

/-!
Containers and the GPUs they are pinned to. The allocations behind a container
are there until a committed transaction ends its deployment. Ending one does not
wait for the container to be gone.
-/

namespace AiPlatform.Deployments

def deploysGpu (i : Nat) : List DeploymentLabel :=
  [.begin i ⟨policy, .deploy ⟨100, none, none, none, none, none, none⟩ 9⟩] ++ quiet i 3 ++
    [.perform i (.samples [])] ++ quiet i 5 ++ [.commit i]

def failsToStop (i deploymentId : Nat) : List DeploymentLabel :=
  [.begin i ⟨policy, .stop deploymentId⟩] ++ quiet i 3 ++
    [calls i .nothing [], .perform i (.agent .nothing (some (.error "busy")) ⟨"", false, ⟨false, []⟩⟩)] ++
      quiet i 5 ++ [.commit i]

def pinned : List DeploymentLabel :=
  [.change (.model servedModel)] ++ registers 0 [card 0] ++ deploysGpu 1 ++ ticks 2 ++
    creates 2 "c1" ++ [.commit 2]

end AiPlatform.Deployments
