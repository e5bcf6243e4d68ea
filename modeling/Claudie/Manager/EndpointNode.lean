import Claudie.Manager.EndpointLoadBalancer

/-!
The control node that has the api endpoint, and when it can be deleted.
-/

namespace Claudie

namespace Manager

structure NamedNodes (nps : List NodePool) : Prop where
  nodePools : (nps.map (·.name)).Nodup
  nodes : ∀ np ∈ nps, ∀ n ∈ np.nodes, n.name ≠ ""
  unique : ∀ np ∈ nps, ∀ o ∈ nps, ∀ n ∈ np.nodes, n.name ∈ o.nodes.map (·.name) → np = o

def Delta.removesNode (np node : String) : Delta → Bool
  | .kDeleteNodes withNodePool nodepool nodes _ =>
    nodepool = np && (withNodePool || nodes.contains node)
  | _ => false

section

variable {k dk : K8scluster} {np : NodePool} {node : Node} {nps dnps : List NodePool}

variable {ord : MapOrder} {entropy : Entropy} {id : TaskId} {hc : HealthCheckStatus}
  {current desired : Clusters} {r : KubernetesDiffResult} {te : TaskEvent}

section NoLoadBalancers

variable {proxy : ProxyDiffResult} {k₁ k₂ : Option K8scluster}

theorem scheduleDeletionsInNodePools_startingAt {differs : NodePoolsDiffResult}
    {opts : K8sNodeDeletionOptions} {nodepool : String} {nodes : List String}
    (hk : current.k8s = some k) (h : differs.partiallyDeleted[nodepool]? = some nodes) :
    ∃ te, scheduleDeletionsInNodePools (.startingAt nodepool) id current differs opts
        = .ok (some te)
      ∧ te.task = .update current (.kDeleteNodes false nodepool nodes opts.unreachable) := by
  obtain ⟨others, hrange⟩ := MapOrder.range_startingAt "partially deleted nodepools" h
  unfold scheduleDeletionsInNodePools
  simp only [Outcome.deref_some, bind, Except.bind, hk, hrange]
  exact ⟨_, rfl, rfl⟩

end NoLoadBalancers

end

namespace Demo

namespace EndpointNode

open Mixed

def endpoint (status : NodeStatus) : Node :=
  { node "control-01" "192.0.2.1" .apiEndpoint with status }

def other : Node := node "control-02" "192.0.2.2" .master

def k8s (nodes : List Node) : K8scluster := Mixed.k8s [staticPool "control" true nodes]

end EndpointNode

end Demo

end Manager

end Claudie
