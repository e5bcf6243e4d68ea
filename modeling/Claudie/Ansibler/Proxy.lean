import Claudie.NodePools

/-!
`proxy.go` of the ansibler service: the proxy and the exceptions from it that are put on the nodes.
-/

namespace Claudie

namespace Ansibler

def defaultHttpProxyUrl : String := "http://proxy.claudie.io:8880"

def noProxyDefault : String := "127.0.0.1/8,localhost,cluster.local,10.244.0.0/16,10.96.0.0/12"

structure Proxy where
  httpProxyUrl : String
  noProxyList : String
  deriving DecidableEq

def appendNodes (noProxyList : String) (nps : List NodePool) : String :=
  (nps.flatMap (·.nodes)).foldl (fun noProxyList node =>
    noProxyList ++ "," ++ node.privateIp ++ "," ++ node.publicIp) noProxyList

-- The endpoints are read without a check that the load balancer has a dns.
def appendLoadBalancer (noProxyList : String) (lb : LBcluster) : Outcome String := do
  let dns ← Outcome.deref lb.dns
  let noProxyList := noProxyList ++ "," ++ dns.endpoint
  let noProxyList := dns.alternativeNames.foldl (fun noProxyList ep =>
    if ep.endpoint ≠ "" then noProxyList ++ "," ++ ep.endpoint else noProxyList) noProxyList
  pure (appendNodes noProxyList lb.clusterInfo.nodePools)

def createNoProxyList (k8s : K8scluster) (lbs : List LBcluster)
    (installationProxy : InstallationProxy) : Outcome String := do
  let userNoProxy := installationProxy.noProxy
  let noProxyList :=
    if userNoProxy ≠ "" then noProxyDefault ++ "," ++ userNoProxy else noProxyDefault
  let noProxyList := appendNodes noProxyList k8s.clusterInfo.nodePools
  let noProxyList ← lbs.foldlM appendLoadBalancer noProxyList
  pure (noProxyList
    ++ ",svc,metadata,metadata.google.internal,169.254.169.254,metadata.google.internal.,")

def httpProxyUrl (installationProxy : InstallationProxy) : String :=
  if installationProxy.endpoint ≠ "" then installationProxy.endpoint else defaultHttpProxyUrl

def httpProxyUrlAndNoProxyList (k8s : K8scluster) (lbs : List LBcluster)
    (installationProxy : InstallationProxy) : Outcome Proxy := do
  let noProxyList ← createNoProxyList k8s lbs installationProxy
  pure { httpProxyUrl := httpProxyUrl installationProxy, noProxyList }

end Ansibler

end Claudie
