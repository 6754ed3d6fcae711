import TinyReverseProxy.Gateway.AllowList
import TinyReverseProxy.Proxy.Gate

/-!
# Which paths need a key

The router matches the normalised path, the virtual keys look at the path as it came. The two agree
when the path is spelled with `/v1/` in front. A path that reaches the same place by a detour
(`//v1/x`, `/./v1/x`, `/a/../v1/x`) is routed like it and needs no key.
-/

namespace TinyReverseProxy.Gateway

open Lib Proxy ProxyService

/-- The plugin in the proxy's chain. -/
def virtualKeysPlugin (vk : VirtualKeys) : Plugin where
  onRequest := vk.onRequest
  onUpstreamSelect ctx servers := .ok (ctx, servers)

def v1 : Text := "v1"

theorem requiresRuntimeAuth_iff (path : Text) :
    requiresRuntimeAuth path = true ↔ '/' :: (v1 ++ ['/']) <+: path := by
  rw [requiresRuntimeAuth, decide_eq_true_eq]
  rfl

/-- A request that continues where a key is needed, and no other keys are allowed, has an active
one. -/
theorem key_of_onRequest {vk : VirtualKeys} {ctx ctx' : RequestContext}
    (h : vk.onRequest ctx = .ok ctx') (hauth : requiresRuntimeAuth ctx.path = true)
    (hdirect : vk.allowDirectProviderKeys = false) :
    ∃ apiKey record, extractApiKey ctx.headers = some apiKey ∧ vk.findKey apiKey = .ok record := by
  rw [VirtualKeys.onRequest, if_pos hauth] at h
  rcases vk.authorize_eq_ok h with ⟨hallowed, _⟩ | ⟨apiKey, record, hkey, hfind, _⟩
  · rw [hdirect] at hallowed
    cases hallowed
  · rw [extractApiKey_takeRoutingDebug] at hkey
    exact ⟨apiKey, record, hkey, hfind⟩

/-! ## The property and when it holds -/

/-- What the router takes for a path below `/v1` needs a key, and is sent nowhere without an active
one: by any service whose first plugin is the virtual keys, with only managed keys allowed. -/
def PathGuarded (req : Request) : Prop :=
  "/v1/" <+: normalizePath req.path →
    requiresRuntimeAuth req.path = true ∧
    ∀ (s : ProxyService) (vk : VirtualKeys) (rest : List Plugin) (w : World) (a : Attempt),
      s.plugins = some (virtualKeysPlugin vk :: rest) → vk.allowDirectProviderKeys = false →
      .sent a ∈ (s.handle w req).1 →
      ∃ apiKey record, extractApiKey req.headers = some apiKey ∧ vk.findKey apiKey = .ok record ∧
        record.active = true

theorem key_of_sent {s : ProxyService} {vk : VirtualKeys} {rest : List Plugin} {w : World}
    {a : Attempt} {req : Request} (hplugins : s.plugins = some (virtualKeysPlugin vk :: rest))
    (hdirect : vk.allowDirectProviderKeys = false) (hauth : requiresRuntimeAuth req.path = true)
    (hsent : .sent a ∈ (s.handleBoxed w req).1) :
    ∃ apiKey record, extractApiKey req.headers = some apiKey ∧ vk.findKey apiKey = .ok record := by
  obtain ⟨ctx, hrun, _⟩ := s.handleBoxed_sent hsent
  rw [hplugins, Option.getD_some, runOnRequest] at hrun
  split at hrun
  · cases hrun
  · next ctx₁ hvk =>
    have hcontinued : vk.onRequest (s.pluginContext req) = .ok ctx₁ := hvk
    exact key_of_onRequest hcontinued hauth hdirect

/-- No key is known. -/
def keylessKeys : VirtualKeys :=
  { openKeys ∅ [] .openAiEmbeddings with keys := ∅, providers := ∅ }

/-- Everything is routed to one upstream, behind virtual keys without a key. -/
def keylessService : ProxyService :=
  { plainProxy with plugins := some [virtualKeysPlugin keylessKeys] }

theorem keylessKeys_findKey (apiKey : Text) (record : VirtualKeyRecord) :
    keylessKeys.findKey apiKey ≠ .ok record := by
  intro h
  have hlookup := (keylessKeys.findKey_eq_ok h).1
  cases hlookup

/-- The path and the headers of a request decide: it leads elsewhere, or it is spelled with `/v1/`
in front and asks for no upgrade. -/
theorem pathGuarded_iff (req : Request) : PathGuarded req ↔
    ¬ LeadsBelow v1 req.path ∨
      ("/v1/" <+: req.path ∧ isWebsocketUpgrade req.headers = false) := by
  have hroute : "/v1/" <+: normalizePath req.path ↔ LeadsBelow v1 req.path :=
    normalizePath_prefix_iff (by decide : '/' ∉ v1) (by decide)
  rw [PathGuarded, hroute]
  constructor
  · intro hguarded
    by_cases hleads : LeadsBelow v1 req.path
    · obtain ⟨hauth, hsent⟩ := hguarded hleads
      refine .inr ⟨(requiresRuntimeAuth_iff req.path).mp hauth, ?_⟩
      by_contra hup
      -- an upgrade reaches the upstream although there is no key
      have hupgrade : isWebsocketUpgrade req.headers = true := by simpa using hup
      obtain ⟨apiKey, record, _, hfind, _⟩ := hsent keylessService keylessKeys []
        (calmWorld 0) _ rfl rfl (by
          rw [handle, if_pos hupgrade]
          exact List.mem_singleton.mpr rfl)
      exact keylessKeys_findKey apiKey record hfind
    · exact .inl hleads
  · rintro (helsewhere | ⟨hspelled, hplain⟩) hleads
    · exact absurd hleads helsewhere
    · have hauth := (requiresRuntimeAuth_iff req.path).mpr hspelled
      refine ⟨hauth, ?_⟩
      intro s vk rest w a hplugins hdirect hsent
      rw [handle, hplain] at hsent
      obtain ⟨apiKey, record, hkey, hfind⟩ := key_of_sent hplugins hdirect hauth hsent
      exact ⟨apiKey, record, hkey, hfind, (vk.findKey_eq_ok hfind).2.1⟩

def plainRequest (path : String) : Request := getRequest path.toList []

/-- One more slash, and a request without a key is sent on; it is routed like the path without
it. -/
theorem doubleSlash_needs_no_key :
    normalizePath "//v1/models" = normalizePath "/v1/models" ∧
      ((keylessService.handle (calmWorld 0) (plainRequest "//v1/models")).1.any
        fun event => event matches .sent _) = true ∧
      ((keylessService.handle (calmWorld 0) (plainRequest "/v1/models")).1.any
        fun event => event matches .sent _) = false := by
  decide

end TinyReverseProxy.Gateway
