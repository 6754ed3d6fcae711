import Mathlib.Data.Finset.Image
import TinyReverseProxy.Proxy.Balancing

/-!
# Reloading the configuration

On SIGHUP the file is read again and its routes take effect. Of the other settings the names of
those that changed are logged: they are compared with the file of the reload before, not with the
settings in use, and some are not compared.
-/

namespace TinyReverseProxy.Proxy

open Lib List

/-- The fields of a configuration other than the routes. -/
inductive Setting where
  | port | healthCheck | tlsCert | tlsKey | tlsAuto | metricsPort | managementApiPort
  | managementApiToken | allowDirectProviderKeys | storeUrl | maxRequestBodyBytes
  | headerReadTimeoutSecs | upstreamTimeoutSecs | rateLimit | compressionEnabled | circuitBreaker
  | cache | reliability | previewFeatures | proxyProtocol | plugins | providers | modelAliases
  | opentelemetryEnabled
  deriving DecidableEq

/-- A valid configuration, whatever the types of its settings are. -/
structure Config (V : Setting → Type) where
  routes : List ((Text → Bool) × WeightedRoute)
  setting : ∀ s, V s

/-- The names that are logged, with the settings each stands for. -/
def reported : List (String × List Setting) :=
  [("port", [.port]), ("health_check", [.healthCheck]), ("tls", [.tlsCert, .tlsKey, .tlsAuto]),
    ("metrics_port", [.metricsPort]),
    ("management_api", [.managementApiPort, .managementApiToken]), ("store_url", [.storeUrl]),
    ("max_request_body_bytes", [.maxRequestBodyBytes]),
    ("header_read_timeout_secs", [.headerReadTimeoutSecs]),
    ("upstream_timeout_secs", [.upstreamTimeoutSecs]), ("rate_limit", [.rateLimit]),
    ("compression_enabled", [.compressionEnabled]), ("circuit_breaker", [.circuitBreaker]),
    ("cache", [.cache]), ("proxy_protocol", [.proxyProtocol]), ("plugins", [.plugins]),
    ("providers", [.providers]), ("model_aliases", [.modelAliases])]

def unreported : List Setting :=
  [.allowDirectProviderKeys, .reliability, .previewFeatures, .opentelemetryEnabled]

structure HealthState where
  tracked : Finset Text
  healthy : Finset Text

def HealthState.syncUpstreams (state : HealthState) (desired : Finset Text) : HealthState where
  tracked := desired
  healthy := state.healthy.filter (· ∈ desired) ∪ desired \ state.tracked

/-- The file that was read last, the routes in effect, and the targets and the findings of the
health checks if there are any. -/
structure Process (V : Setting → Type) where
  config : Config V
  routes : List ((Text → Bool) × WeightedRoute)
  health : Option (Finset Text × HealthState)

variable {V : Setting → Type}

def Config.collectUpstreams (config : Config V) : Finset Text :=
  (config.routes.flatMap (·.2.servers)).toFinset

variable [∀ s, BEq (V s)]

namespace Config

def differs (old new : Config V) (s : Setting) : Bool := old.setting s != new.setting s

def nonReloadableChanges (old new : Config V) : List String :=
  (reported.filter (·.2.any (differs old new))).map (·.1)

/-- What is not compared is as at the start, and no name keeps values from the file before that are
not in use. -/
def NothingKept (start old new : Config V) : Prop :=
  (∀ s ∈ unreported, ¬differs start new s) ∧
  ∀ row ∈ reported, row.2.any (differs start new) → row.2.any (differs old new)

end Config

open Config

namespace Process

def reload (p : Process V) (new : Config V) : List String × Process V :=
  (nonReloadableChanges p.config new,
    { config := new
      routes := new.routes
      health := p.health.map fun h =>
        (collectUpstreams new, h.2.syncUpstreams (collectUpstreams new)) })

def run (p : Process V) (files : List (Config V)) : Process V :=
  files.foldl (fun p new => (p.reload new).2) p

theorem run_config (files : List (Config V)) (p : Process V) :
    (p.run files).config = files.getLastD p.config := by
  induction files generalizing p with
  | nil => rfl
  | cons new files ih =>
    rw [run, foldl_cons, ← run, ih, getLastD_cons]
    rfl

/-- A process is started with its configuration. After any reloads one more puts the routes and the
upstreams of its file in effect; it names every setting that is not in effect exactly if nothing is
kept from the file before. -/
theorem reload_reports_iff (p : Process V) (files : List (Config V)) (new : Config V) :
    ((∀ s, differs p.config new s → ∃ row ∈ reported, s ∈ row.2 ∧
      row.1 ∈ ((p.run files).reload new).1) ↔
      NothingKept p.config (files.getLastD p.config) new) ∧
    ((p.run files).reload new).2.routes = new.routes ∧
    ∀ h ∈ ((p.run files).reload new).2.health,
      h.1 = collectUpstreams new ∧ h.2.tracked = collectUpstreams new := by
  -- the table has a name once, and a setting in one row at most
  have hname : ∀ row ∈ reported, ∀ row' ∈ reported, row.1 = row'.1 → row = row' := by decide
  have hone : ∀ row ∈ reported, ∀ row' ∈ reported, ∀ s ∈ row.2, s ∈ row'.2 → row = row' := by decide
  have hnone : ∀ s ∈ unreported, ∀ row ∈ reported, s ∉ row.2 := by decide
  refine ⟨?_, rfl, ?_⟩
  · rw [reload, run_config]
    simp only [nonReloadableChanges, mem_map, mem_filter]
    constructor
    · intro hnamed
      constructor
      · intro s hs hdiffers
        obtain ⟨row, hrow, hmem, -⟩ := hnamed s hdiffers
        exact hnone s hs row hrow hmem
      · intro row hrow hany
        obtain ⟨s, hs, hdiffers⟩ := any_eq_true.mp hany
        -- a changed setting of the row is named, which only its own row does
        obtain ⟨row', hrow', hs', row'', ⟨hrow'', hany'⟩, heq⟩ := hnamed s hdiffers
        rw [hone row hrow row' hrow' s hs hs', ← hname row'' hrow'' row' hrow' heq]
        exact hany'
    · rintro ⟨hunreported, hkept⟩ s hdiffers
      have hcovered : s ∈ unreported ∨ ∃ row ∈ reported, s ∈ row.2 := by cases s <;> decide
      obtain ⟨row, hrow, hs⟩ := hcovered.resolve_left fun hs => hunreported s hs hdiffers
      have hany := hkept row hrow (any_eq_true.mpr ⟨s, hs, hdiffers⟩)
      exact ⟨row, hrow, hs, row, ⟨hrow, hany⟩, rfl⟩
  · intro h hh
    obtain ⟨_, -, rfl⟩ := Option.map_eq_some_iff.mp hh
    exact ⟨rfl, rfl⟩

/-- The port of the file becomes 8081, and the file is read twice: the second time nothing is named,
and the port is not in effect. -/
theorem second_reload_silent :
    let route : WeightedRoute := ⟨⟨["http://a"], .roundRobin⟩, none⟩
    let file (port : Nat) : Config fun _ => Option Nat :=
      ⟨[(fun _ => true, route)], fun s => if s = .port then some port else none⟩
    let process : Process _ := ⟨file 8080, (file 8080).routes, none⟩
    ((process.run [file 8081]).reload (file 8081)).1 = [] ∧
      differs (file 8080) (file 8081) .port := by
  decide

end Process

end TinyReverseProxy.Proxy
