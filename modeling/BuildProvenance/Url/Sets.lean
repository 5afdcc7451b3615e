/-!
# Characters to be percent-encoded

Each part of a URL has its own set of ASCII characters that are written as
percent escapes.  Characters beyond ASCII are always escaped.
-/

namespace BuildProvenance.Url

def isControl (c : Char) : Bool := c.toNat < 32 || c.toNat = 127

def inFragmentSet (c : Char) : Bool :=
  isControl c || c = ' ' || c = '"' || c = '<' || c = '>' || c = Char.ofNat 96

def inQuerySet (special : Bool) (c : Char) : Bool :=
  isControl c || c = ' ' || c = '"' || c = '#' || c = '<' || c = '>' ||
    (special && c = Char.ofNat 39)

def inPathSet (c : Char) : Bool :=
  inFragmentSet c || c = '#' || c = '?' || c = Char.ofNat 123 || c = Char.ofNat 125

def inUserInfoSet (c : Char) : Bool :=
  inPathSet c || c = '/' || c = ':' || c = ';' || c = '=' || c = '@' || c = '[' ||
    c = Char.ofNat 92 || c = ']' || c = '^' || c = '|'

/-- For a segment that is appended to a path as a whole: what would end it, or
would be read as an escape, is escaped too. -/
def inSegmentSet (special : Bool) (c : Char) : Bool :=
  inPathSet c || c = '/' || c = '%' || (special && c = Char.ofNat 92)

end BuildProvenance.Url
