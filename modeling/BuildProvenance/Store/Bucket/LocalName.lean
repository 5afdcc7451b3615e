import BuildProvenance.Error
import BuildProvenance.FileSystem.Path
import BuildProvenance.Store.Bucket.Listing
import BuildProvenance.Text.Cut

/-!
# Where an object is kept locally

Object names are copied to files, so a name has to make sense as a path.
Empty and `.` segments are folded away.  A name that begins with a slash or has
a `..` segment would leave the directory and is refused, and so are two names
that fold to one path.
-/

namespace BuildProvenance

namespace LocalName

/-- The segments of a name that name something. -/
def segments (name : String) : List (List Char) :=
  (Text.parts '/' name.toList).filter fun segment => segment ≠ [] ∧ segment ≠ ['.']

/-- Whether a name would leave the directory it is put below. -/
def escapes (name : String) : Bool :=
  name.toList.head? = some '/' || (segments name).contains ['.', '.']

/-- The path of an object below the directory. -/
def of (name : String) : Result String :=
  if escapes name then Result.fail (.pathTraversal name)
  else if segments name = [] then Result.fail (.noLocalPath name)
  else .ok (String.ofList (List.intercalate ['/'] (segments name)))

/-- Puts one object among those that have a local path. -/
def assign (known : SortedMap BucketObject) (object : BucketObject) :
    Result (SortedMap BucketObject) := do
  let path ← of object.name
  match known.get? path with
  | some earlier => Result.fail (.sharedLocalPath earlier.name object.name path)
  | none => return known.insert path object

/-- The objects by local path. -/
def assignAll (known : SortedMap BucketObject) : List BucketObject →
    Result (SortedMap BucketObject)
  | [] => .ok known
  | object :: rest =>
    match assign known object with
    | .error error => .error error
    | .ok known => assignAll known rest

end LocalName

end BuildProvenance
