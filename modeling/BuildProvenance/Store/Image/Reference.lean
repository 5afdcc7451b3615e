import BuildProvenance.Error
import BuildProvenance.Text.Cut

/-!
# References to images

An image stands in a registry, below a repository, under a tag or a digest.
A digest wins over a tag, and where neither is written the tag is `latest`.
-/

namespace BuildProvenance

structure ImageReference where
  /-- The host of the registry. -/
  registry : String
  /-- The registry and the namespace below it. -/
  repository : String
  image : String
  /-- A tag or a digest. -/
  reference : String
  deriving DecidableEq

namespace ImageReference

def scheme : List Char := "oci://".toList

def defaultTag : List Char := "latest".toList

/-- Reads what follows the scheme: a repository, an image, and perhaps a tag
after a colon and a digest after an at sign. -/
def ofName? (text : List Char) : Option ImageReference := do
  let (name, digest) :=
    match Text.cutFirst? '@' text with
    | some (name, digest) => (name, some digest)
    | none => (text, none)
  let (repository, last) ← Text.cutLast? '/' name
  let (image, tag) :=
    match Text.cutFirst? ':' last with
    | some (image, tag) => (image, some tag)
    | none => (last, none)
  if repository = [] ∨ image = [] then none
  else
    let written := (digest.or tag).getD []
    return {
      registry := String.ofList ((Text.parts '/' repository).headD [])
      repository := String.ofList repository
      image := String.ofList image
      reference := String.ofList (if written = [] then defaultTag else written) }

/-- Reads `oci://` and a reference. -/
def parse (uri : String) : Result ImageReference :=
  if scheme.isPrefixOf uri.toList then
    match ofName? (uri.toList.drop scheme.length) with
    | some reference => .ok reference
    | none => .error (.ofConfig (.missingImage uri))
  else .error (.ofConfig (.invalidUri uri .notImageReference))

/-- The hosts under which Docker Hub is known. -/
def isDockerHub (registry : String) : Bool :=
  registry ∈ ["docker.io", "index.docker.io", "registry-1.docker.io"]

/-- The name of the image within its registry.  An image directly below Docker
Hub is kept in the namespace `library`. -/
def apiRepository (image : ImageReference) : String :=
  let namespaced :=
    Text.trimStart '/' (image.repository.toList.drop image.registry.length)
  if namespaced ≠ [] then String.ofList namespaced ++ "/" ++ image.image
  else if isDockerHub image.registry then "library/" ++ image.image
  else image.image

/-- The name of one descriptor of the image. -/
def descriptorPath (image : ImageReference) (digest : String) : String :=
  image.repository ++ "/" ++ image.image ++ "@" ++ digest

end ImageReference

end BuildProvenance
