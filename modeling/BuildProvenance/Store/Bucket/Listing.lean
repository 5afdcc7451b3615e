import BuildProvenance.Client
import BuildProvenance.SortedMap
import BuildProvenance.Time.Timestamp

/-!
# Listing a bucket

A bucket keeps its objects under flat names and answers listings folder by
folder, in pages.  The walk asks for every folder once, beginning with its
root, and goes on to the folders that the pages name.  An object whose name
ends in a slash stands for a folder, too.

What is found is listed in the order of the names, each name once; the first
occurrence of a name stands.
-/

namespace BuildProvenance

structure BucketObject where
  name : String
  size : Nat
  contentType : Option String
  /-- The time of the last change, if the bucket reports one. -/
  updated : Option Timestamp
  deriving DecidableEq

namespace BucketObject

/-- A name that stands for a folder. -/
def isFolder (object : BucketObject) : Bool := object.name.toList.getLast? = some '/'

/-- An empty text.  Such objects mark folders, too, and are passed over. -/
def isMarker (object : BucketObject) : Bool :=
  object.size = 0 && (object.contentType.getD "").startsWith "text/plain"

end BucketObject

structure ListRequest where
  bucket : String
  folder : String
  /-- Where a listing that was begun goes on. -/
  token : Option String
  deriving DecidableEq

structure ListPage where
  objects : List BucketObject
  folders : List String
  next : Option String
  deriving DecidableEq

/-- Serves the pages of listings. -/
abbrev ListingClient (σ : Type) := Client σ ListRequest ListPage

/-- How far a listing has come. -/
structure Listing where
  /-- The next page of the folder that was begun last. -/
  page : Option (String × String)
  queue : List String
  /-- The folders that were begun. -/
  seen : List String
  found : List BucketObject

namespace Listing

def start (root : String) : Listing := ⟨none, [root], [], []⟩

/-- The folder and page to ask for next, and the listing once they are asked for. -/
def next? (listing : Listing) : Option (String × Option String × Listing) :=
  match listing.page with
  | some (folder, token) => some (folder, some token, { listing with page := none })
  | none =>
    match listing.queue.dropWhile (listing.seen.contains ·) with
    | [] => none
    | folder :: queue =>
      some (folder, none, { listing with queue, seen := folder :: listing.seen })

/-- The listing after a page of a folder. -/
def absorb (listing : Listing) (folder : String) (page : ListPage) : Listing where
  page :=
    match page.next with
    | some token => if token = "" then none else some (folder, token)
    | none => none
  queue :=
    let named := page.folders ++ (page.objects.filter (·.isFolder)).map BucketObject.name
    listing.queue ++ named.filter fun folder => !listing.seen.contains folder
  seen := listing.seen
  found :=
    listing.found ++ page.objects.filter fun object => !object.isFolder && !object.isMarker

/-- What was found, by name. -/
def objects (listing : Listing) : List BucketObject :=
  (SortedMap.ofList (listing.found.reverse.map fun object => (object.name, object))).values

/-- Asks for pages until none is left to ask for. -/
def run {σ : Type} (client : ListingClient σ) (bucket : String) (listing : Listing) (state : σ) :
    Result (List BucketObject) × σ :=
  match listing.next? with
  | none => (.ok listing.objects, state)
  | some (folder, token, begun) =>
    match _asked : client.ask ⟨bucket, folder, token⟩ state with
    | (.error error, after) => (.error (error.within (.listing bucket folder)), after)
    | (.ok page, after) => run client bucket (begun.absorb folder page) after
termination_by client.patience state
decreasing_by exact client.patience_lt _ _ _ _ (by assumption)

end Listing

end BuildProvenance
