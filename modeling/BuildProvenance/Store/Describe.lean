import BuildProvenance.Store.Basic
import BuildProvenance.Text.Quoted

/-!
# Stores in full

The text of a store for those who look for mistakes: its kind and fields, with
two dots for what is left out.
-/

namespace BuildProvenance.Store

/-- A name and the fields of what it names, in braces. -/
def braced (name : String) (fields : List (String × String)) (complete : Bool) : String :=
  let shown := fields.map fun field => field.1 ++ ": " ++ field.2
  name ++ " \x7b " ++ String.intercalate ", " (if complete then shown else shown ++ [".."]) ++
    " \x7d"

def driverText (place : Place) : String × String :=
  match place with
  | .directory tree =>
    ("Directory", braced "Directory" [("path", Text.quote true tree.path)] true)
  | .bucket bucket =>
    ("Gcs", braced "Gcs"
      [("bucket", Text.quote false bucket.name), ("path", Text.quote false bucket.path),
        ("workers", Nat.repr bucket.workers)] false)
  | .image image =>
    ("Oci", braced "Oci"
      [("repository", Text.quote false image.repository),
        ("image", Text.quote false image.image),
        ("reference", Text.quote false image.reference)] false)

def describe (store : Store) : String :=
  let driver := driverText store.place
  braced driver.1 [("uri", Text.quote false store.uri), ("driver", driver.2)] true

end BuildProvenance.Store
