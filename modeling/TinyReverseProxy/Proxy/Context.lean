import TinyReverseProxy.Lib.Headers
import TinyReverseProxy.Lib.Json.Parse

/-!
# The request context the plugins share

Every plugin hook gets the same `RequestContext` and may change it. The source keeps typed values in
an extension map; the ones that the modelled code reads are fields here: the parsed request body
(`CachedRequestJson`), the managed key (`VirtualKeyMeta`) and the provider candidates
(`ProviderCandidates`).

A hook either lets the request continue, with the context it leaves behind, or answers it:
`Except HttpResponse RequestContext`.
-/

namespace TinyReverseProxy.Proxy

open Lib

/-- The path and query of a URI, as they are sent. -/
def pathAndQuery (path : Text) : Option Text → Text
  | some query => path ++ '?' :: query
  | none => path

structure HttpResponse where
  status : Nat
  headers : Headers
  body : Text
  deriving DecidableEq, Repr

/-- One provider the proxy may try, with the headers to send to it. -/
structure ProviderCandidate where
  upstream : Text
  headers : Headers
  deriving DecidableEq, Repr

/-- Who a runtime request runs as, `AuthContext::runtime`. -/
structure RuntimeAuth where
  projectId : Text
  keyHash : Text
  deriving DecidableEq, Repr

/-- What a managed key resolved to, left for the plugins that run later. -/
structure VirtualKeyMeta where
  keyHash : Text
  projectId : Text
  providerName : Text
  deriving DecidableEq, Repr

structure RequestContext where
  method : Text
  path : Text
  query : Option Text
  headers : Headers
  body : Option Text
  selectedUpstream : Option Text
  auth : Option RuntimeAuth
  cachedRequestJson : Option Json.Value
  virtualKey : Option VirtualKeyMeta
  providerCandidates : Option (List ProviderCandidate)

end TinyReverseProxy.Proxy
