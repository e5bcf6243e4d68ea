import Claudie.Ansibler.Proxy
import Claudie.Manager.Lemmas.Agreement

/-!
Which changes of the installation proxy the manager notices.
-/

namespace Claudie

namespace Manager

def SameEffectiveProxy (old desired : K8scluster) : Prop :=
  (usesProxy old = false ∧ usesProxy desired = false)
    ∨ (usesProxy old = true ∧ usesProxy desired = true
      ∧ ∀ (k8s : K8scluster) (lbs : List LBcluster),
        Ansibler.httpProxyUrlAndNoProxyList k8s lbs old.installationProxy
          = Ansibler.httpProxyUrlAndNoProxyList k8s lbs desired.installationProxy)

section

variable {p p' : InstallationProxy}

theorem httpProxyUrlAndNoProxyList_congr (hurl : Ansibler.httpProxyUrl p = Ansibler.httpProxyUrl p')
    (hno : p.noProxy = p'.noProxy) (k8s : K8scluster) (lbs : List LBcluster) :
    Ansibler.httpProxyUrlAndNoProxyList k8s lbs p
      = Ansibler.httpProxyUrlAndNoProxyList k8s lbs p' := by
  simp only [Ansibler.httpProxyUrlAndNoProxyList, Ansibler.createNoProxyList, hurl, hno]

theorem httpProxyUrl_of_same (h : ∀ (k8s : K8scluster) (lbs : List LBcluster),
      Ansibler.httpProxyUrlAndNoProxyList k8s lbs p
        = Ansibler.httpProxyUrlAndNoProxyList k8s lbs p') :
    Ansibler.httpProxyUrl p = Ansibler.httpProxyUrl p' := by
  -- a cluster without load balancers always gets a proxy.
  have hproxy := h ⟨⟨"", "", []⟩, "", "", "", p⟩ []
  injection hproxy with hproxy
  exact congrArg (·.httpProxyUrl) hproxy

end

theorem unreported_proxy_is_unchanged (ord : MapOrder) (old desired : K8scluster)
    (r : KubernetesDiffResult) (h : kubernetesDiff ord old desired = .ok r) :
    (r.proxy.change = .noChange → SameEffectiveProxy old desired)
      ↔ (usesProxy old = true → usesProxy desired = true →
        old.installationProxy.noProxy = desired.installationProxy.noProxy →
        Ansibler.httpProxyUrl old.installationProxy
          = Ansibler.httpProxyUrl desired.installationProxy) := by
  rw [(kubernetesDiff_eq_ok h).proxy, proxyDiff_noChange]
  constructor
  · intro hsame hold hdesired hno
    obtain ⟨hunused, _⟩ | ⟨_, _, hall⟩ := hsame ⟨hold.trans hdesired.symm, fun _ => hno⟩
    · rw [hold] at hunused
      cases hunused
    · exact httpProxyUrl_of_same hall
  · rintro hurl ⟨huses, hno⟩
    cases hold : usesProxy old with
    | false => exact .inl ⟨hold, huses.symm.trans hold⟩
    | true =>
      have hdesired := huses.symm.trans hold
      exact .inr ⟨hold, hdesired,
        httpProxyUrlAndNoProxyList_congr (hurl hold hdesired (hno hold)) (hno hold)⟩

namespace Demo

namespace ProxyChanges

def k8s (proxy : InstallationProxy) : K8scluster := ⟨⟨"main", "abc1234", []⟩, "", "", "", proxy⟩

end ProxyChanges

end Demo

theorem unreported_proxy_of_default_url :
    SameEffectiveProxy (Demo.ProxyChanges.k8s ⟨"on", "", "10.0.0.0/8"⟩)
      (Demo.ProxyChanges.k8s ⟨"on", "http://proxy.claudie.io:8880", "10.0.0.0/8"⟩) :=
  (unreported_proxy_is_unchanged .ascending _ _ _ rfl).mpr (fun _ _ _ => rfl) rfl

theorem changed_proxy_endpoint_ignored :
    ∃ r, kubernetesDiff .ascending (Demo.ProxyChanges.k8s ⟨"on", "http://192.0.2.1:3128", ""⟩)
        (Demo.ProxyChanges.k8s ⟨"on", "http://192.0.2.2:3128", ""⟩) = .ok r
      ∧ r.proxy.change = .noChange
      ∧ ¬ SameEffectiveProxy (Demo.ProxyChanges.k8s ⟨"on", "http://192.0.2.1:3128", ""⟩)
        (Demo.ProxyChanges.k8s ⟨"on", "http://192.0.2.2:3128", ""⟩) := by
  refine ⟨_, rfl, rfl, ?_⟩
  rintro (⟨hunused, _⟩ | ⟨_, _, hall⟩)
  · cases hunused
  · exact absurd (httpProxyUrl_of_same hall) (by decide)

end Manager

end Claudie
