import Mathlib.Data.List.AList
import TinyReverseProxy.Proxy.Handler

/-!
# Provider failover

A provider whose upstream failed is left out for a while. Before upstreams are tried, the plugin
takes the servers and the candidates of such providers off the lists; nothing stops it from taking
off all candidates.
-/

namespace TinyReverseProxy.Gateway

open Lib Proxy

/-- A provider is recognised by a piece of its upstream's address. -/
structure ProviderConfig where
  name : Text
  pattern : Text

structure ProviderFailover where
  providers : List ProviderConfig
  /-- When each failed provider failed. -/
  failedProviders : AList (fun _ : Text => Nat)
  cooldown : Nat
  now : Nat

namespace ProviderFailover

variable (pf : ProviderFailover)

def providerForUpstream (upstream : Text) : Option Text :=
  (pf.providers.find? fun p => upstream.contains p.pattern).map (·.name)

/-- The rest of the cooldown; none when it is over, and when the failure lies ahead. -/
def cooldownRemaining (failedAt : Nat) : Option Nat :=
  if failedAt ≤ pf.now ∧ pf.now - failedAt ≤ pf.cooldown then
    some (pf.cooldown - (pf.now - failedAt))
  else none

/-- The upstream's provider is not cooling down. -/
def available (upstream : Text) : Bool :=
  match (pf.providerForUpstream upstream).bind pf.failedProviders.lookup with
  | some failedAt => (pf.cooldownRemaining failedAt).isNone
  | none => true

-- entries whose cooldown is over are also dropped from the table, which changes no later answer
def onUpstreamSelect (ctx : RequestContext) (servers : List Text) : RequestContext × List Text :=
  ({ ctx with providerCandidates :=
      ctx.providerCandidates.map (·.filter fun c => pf.available c.upstream) },
    servers.filter pf.available)

def plugin : Plugin where
  onRequest ctx := .ok ctx
  onUpstreamSelect ctx servers := .ok (pf.onUpstreamSelect ctx servers)

end ProviderFailover

end TinyReverseProxy.Gateway
