import MeshRoutes.Mesh.Service
import MeshRoutes.Mesh.VirtualService
import MeshRoutes.Text.Lowercase

/-!
# API resources

Where the API server keeps the objects of a kind: under a group, a version and the plural of the
kind.

## Main definitions

* `ApiResource.of`: the resource of an API version and a kind.
* `pluralOf`: the plural of a kind.
-/

namespace MeshRoutes

/-- Where the API server keeps the objects of a kind. The core group has an empty name. -/
structure ApiResource where
  group : String
  version : String
  kind : String
  apiVersion : String
  plural : String
deriving DecidableEq, Repr

/-- The group and the version of an API version, which are on either side of the first slash; the
core group has no slash. -/
def splitApiVersion (apiVersion : String) : String × String :=
  let cs := apiVersion.toList
  match cs.dropWhile (· != '/') with
  | [] => ("", apiVersion)
  | _ :: version => (String.ofList (cs.takeWhile (· != '/')), String.ofList version)

/-- The plural of a kind, in lowercase: `es` behind a hiss, `ies` in place of a `y` that does not
follow an `a` or an `e`, and otherwise `s`. -/
def pluralOf (kind : String) : String :=
  let lower := Text.lower kind
  String.ofList <|
    match lower.toList.reverse with
    | 's' :: _ => lower.toList ++ ['e', 's']
    | 'h' :: 'c' :: _ => lower.toList ++ ['e', 's']
    | 'h' :: 's' :: _ => lower.toList ++ ['e', 's']
    | 'y' :: 'a' :: _ => lower.toList ++ ['s']
    | 'y' :: 'e' :: _ => lower.toList ++ ['s']
    | 'y' :: stem => stem.reverse ++ ['i', 'e', 's']
    | _ => lower.toList ++ ['s']

/-- The resource of an API version and a kind. -/
def ApiResource.of (apiVersion kind : String) : ApiResource :=
  let (group, version) := splitApiVersion apiVersion
  { group, version, kind, apiVersion, plural := pluralOf kind }

/-- The resource of virtual services. -/
def virtualServiceResource : ApiResource :=
  ApiResource.of virtualServiceApiVersion virtualServiceKind

/-- The resource of services. -/
def serviceResource : ApiResource := ApiResource.of serviceApiVersion serviceKind

end MeshRoutes
