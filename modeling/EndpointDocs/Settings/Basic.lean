import EndpointDocs.Index.Cache

/-!
# Settings

* `Settings`: the settings of a dashboard with their defaults.
-/

namespace EndpointDocs

/-- The settings of a dashboard. -/
structure Settings where
  depthLimit : Int := 3
  cacheMode : CacheMode := .cached
  sourceRoot : String := "src"
  baseUrl : String := "http://localhost:8080"
  excludedPaths : List String :=
    ["/error", "/api-dashboard", "/api-dashboard/meta", "/api-dashboard/debugger"]
  noDescription : String := "No description"

/-- The settings that hold without a file. -/
def Settings.standard : Settings := {}

end EndpointDocs
