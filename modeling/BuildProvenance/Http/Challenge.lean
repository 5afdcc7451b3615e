import BuildProvenance.SortedMap
import BuildProvenance.Text.Blank

/-!
# Bearer challenges

A registry that wants a token says in a challenge where to get one, in
parameters of the form `name="value"`.  What stands between the parameters does
not matter.
-/

namespace BuildProvenance.Http.Challenge

/-- A challenge is a header that reads as plain text, so letters and digits are those of ASCII. -/
def isNameChar (c : Char) : Bool := c.isAlphanum || c = '_'

/-- Where a scan of the parameters stands. -/
inductive Place where
  /-- In a run of name characters, perhaps empty, the last one first. -/
  | name (run : List Char)
  /-- Behind the equals sign after a name. -/
  | equals (name : List Char)
  /-- Inside the quotes after a name. -/
  | value (name done : List Char)

def afterOther (c : Char) : Place := if isNameChar c then .name [c] else .name []

/-- Finds the parameters, each at the first place where it can begin. -/
def parametersFrom (place : Place) : List Char → List (String × String)
  | [] => []
  | c :: rest =>
    match place with
    | .name run =>
      if isNameChar c then parametersFrom (.name (c :: run)) rest
      else if c = '=' ∧ run ≠ [] then parametersFrom (.equals run) rest
      else parametersFrom (.name []) rest
    | .equals run =>
      if c = '"' then parametersFrom (.value run []) rest
      else parametersFrom (afterOther c) rest
    | .value run done =>
      if c = '"' then
        (String.ofList run.reverse, String.ofList done.reverse) ::
          parametersFrom (.name []) rest
      else parametersFrom (.value run (c :: done)) rest

def scheme : List Char := "Bearer ".toList

/-- The parameters of a bearer challenge; the last of a name stands. -/
def parse? (challenge : String) : Option (SortedMap String) :=
  let trimmed := Text.trim challenge.toList
  if scheme.isPrefixOf trimmed then
    some (SortedMap.ofList (parametersFrom (.name []) (trimmed.drop scheme.length)))
  else none

end BuildProvenance.Http.Challenge
