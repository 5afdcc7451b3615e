import BuildProvenance.Proofs.Text.Cut
import BuildProvenance.Proofs.Text.Trim
import BuildProvenance.Store.Image.Reference
import BuildProvenance.Url.Parse
import Mathlib.Tactic

/-!
# How references to images are written

A reference is written in up to four pieces: a repository, an image below it, a
tag behind a colon and a digest behind an at sign.  The texts that are read are
those that are glued from such pieces, and the pieces are found again in them,
whatever colons a port has and whatever marks a digest has.

A repository that begins with a slash has no host before it, and an empty digest
stands in the way of the tag before it.  Neither is refused.
-/

namespace BuildProvenance

namespace ImageReference

/-- A piece behind its mark, if there is one. -/
def marked (mark : Char) : Option (List Char) → List Char
  | none => []
  | some piece => mark :: piece

theorem eq_cutOff_append_marked (mark : Char) (text : List Char) :
    mark ∉ (Url.cutOff mark text).1 ∧
      text = (Url.cutOff mark text).1 ++ marked mark (Url.cutOff mark text).2 := by
  unfold Url.cutOff
  split
  next before after hfound =>
    have hglue := Text.eq_of_cutFirst?_eq_some hfound
    exact ⟨hglue.2, hglue.1⟩
  next hnone => exact ⟨Text.cutFirst?_eq_none_iff.mp hnone, (List.append_nil _).symm⟩

theorem cutOff_append_marked {mark : Char} {front : List Char} (hfront : mark ∉ front)
    (piece : Option (List Char)) :
    Url.cutOff mark (front ++ marked mark piece) = (front, piece) := by
  unfold Url.cutOff
  cases piece with
  | none =>
      rw [marked, List.append_nil, Text.cutFirst?_eq_none_iff.mpr hfront]
  | some after =>
      rw [marked, Text.cutFirst?_append hfront]

/-- A reference in pieces, as it is written behind the scheme. -/
structure Spelling where
  repository : List Char
  image : List Char
  tag : Option (List Char)
  digest : Option (List Char)

namespace Spelling

def render (spelling : Spelling) : List Char :=
  spelling.repository ++ '/' :: (spelling.image ++ marked ':' spelling.tag) ++
    marked '@' spelling.digest

def uri (spelling : Spelling) : String := String.ofList (scheme ++ spelling.render)

/-- Neither repository nor image is empty, and no piece holds a mark that ends it. -/
structure IsProper (spelling : Spelling) : Prop where
  repository_ne : spelling.repository ≠ []
  repository : '@' ∉ spelling.repository
  image_ne : spelling.image ≠ []
  image : '/' ∉ spelling.image ∧ ':' ∉ spelling.image ∧ '@' ∉ spelling.image
  tag : ∀ tag ∈ spelling.tag, '/' ∉ tag ∧ '@' ∉ tag

/-- What is asked for: the digest goes before the tag, and nothing stands for `latest`. -/
def version (spelling : Spelling) : List Char :=
  let written := (spelling.digest.or spelling.tag).getD []
  if written = [] then defaultTag else written

def read (spelling : Spelling) : ImageReference where
  registry := String.ofList ((Text.parts '/' spelling.repository).headD [])
  repository := String.ofList spelling.repository
  image := String.ofList spelling.image
  reference := String.ofList spelling.version

variable {spelling : Spelling}

theorem version_ne_nil (spelling : Spelling) : spelling.version ≠ [] := by
  simp only [version]
  split
  next hempty => exact List.cons_ne_nil _ _
  next hwritten => exact hwritten

theorem version_of_tag {tag : List Char} (htag : spelling.tag = some tag) (hne : tag ≠ []) :
    (spelling.digest = none ∧ spelling.version = tag) ∨
      ∃ digest, spelling.digest = some digest ∧
        spelling.version = if digest = [] then defaultTag else digest := by
  simp only [version]
  cases hdigest : spelling.digest with
  | none => exact Or.inl ⟨rfl, by simp [htag, hne]⟩
  | some digest => exact Or.inr ⟨digest, rfl, rfl⟩

theorem IsProper.name_not_mem (hproper : spelling.IsProper) :
    '@' ∉ spelling.repository ++ '/' :: (spelling.image ++ marked ':' spelling.tag) := by
  have htag : '@' ∉ marked ':' spelling.tag := by
    cases hfound : spelling.tag with
    | none => exact List.not_mem_nil
    | some tag =>
        have hat := (hproper.tag tag hfound).2
        simpa [marked] using hat
  simp [hproper.repository, hproper.image, htag]

theorem IsProper.last_not_mem (hproper : spelling.IsProper) :
    '/' ∉ spelling.image ++ marked ':' spelling.tag := by
  have htag : '/' ∉ marked ':' spelling.tag := by
    cases hfound : spelling.tag with
    | none => exact List.not_mem_nil
    | some tag =>
        have hslash := (hproper.tag tag hfound).1
        simpa [marked] using hslash
  simp [hproper.image, htag]

end Spelling

/-! ## Reading the pieces -/

theorem ofName?_eq (text : List Char) :
    ofName? text = (Text.cutLast? '/' (Url.cutOff '@' text).1).bind fun found =>
      if found.1 = [] ∨ (Url.cutOff ':' found.2).1 = [] then none
      else some (Spelling.read ⟨found.1, (Url.cutOff ':' found.2).1, (Url.cutOff ':' found.2).2,
        (Url.cutOff '@' text).2⟩) := rfl

theorem exists_spelling_of_ofName? {text : List Char} {image : ImageReference}
    (hread : ofName? text = some image) :
    ∃ spelling : Spelling, spelling.IsProper ∧ text = spelling.render ∧ image = spelling.read := by
  rw [ofName?_eq, Option.bind_eq_some_iff] at hread
  obtain ⟨⟨repository, last⟩, hlast, hread⟩ := hread
  obtain ⟨hat, htext⟩ := eq_cutOff_append_marked '@' text
  obtain ⟨hcolon, hglue⟩ := eq_cutOff_append_marked ':' last
  obtain ⟨hname, hslash⟩ := Text.eq_of_cutLast?_eq_some hlast
  simp only [Option.ite_none_left_eq_some, not_or, Option.some.injEq] at hread
  obtain ⟨⟨hrepository, hempty⟩, hread⟩ := hread
  generalize Url.cutOff '@' text = name at hname hat htext hread
  generalize Url.cutOff ':' last = cut at hcolon hglue hempty hread
  obtain ⟨name, digest⟩ := name
  obtain ⟨image, tag⟩ := cut
  subst hname hglue
  -- no piece has the mark that ends it, because the text that is cut has it nowhere else
  simp only [List.mem_append, List.mem_cons, not_or] at hat hslash
  refine ⟨⟨repository, image, tag, digest⟩, ⟨hrepository, hat.1, hempty,
    ⟨hslash.1, hcolon, hat.2.2.1⟩, fun found htag => ?_⟩, htext, hread.symm⟩
  cases htag
  simp only [marked, List.mem_cons, not_or] at hat hslash
  exact ⟨hslash.2.2, hat.2.2.2.2⟩

theorem ofName?_render {spelling : Spelling} (hproper : spelling.IsProper) :
    ofName? spelling.render = some spelling.read := by
  have hdigest : Url.cutOff '@' spelling.render =
      (spelling.repository ++ '/' :: (spelling.image ++ marked ':' spelling.tag),
        spelling.digest) :=
    cutOff_append_marked hproper.name_not_mem spelling.digest
  have htag : Url.cutOff ':' (spelling.image ++ marked ':' spelling.tag) =
      (spelling.image, spelling.tag) :=
    cutOff_append_marked hproper.image.2.1 spelling.tag
  rw [ofName?_eq, hdigest, Text.cutLast?_append hproper.last_not_mem, Option.bind_some, htag,
    if_neg (not_or.mpr ⟨hproper.repository_ne, hproper.image_ne⟩)]

theorem parse_scheme_append_eq_ok_iff {text : List Char} {image : ImageReference} :
    parse (String.ofList (scheme ++ text)) = .ok image ↔ ofName? text = some image := by
  have hscheme : scheme.isPrefixOf (scheme ++ text) = true :=
    List.isPrefixOf_iff_prefix.mpr (List.prefix_append scheme text)
  unfold parse
  rw [String.toList_ofList, if_pos hscheme, List.drop_left]
  cases ofName? text <;> simp

theorem parse_uri {spelling : Spelling} (hproper : spelling.IsProper) :
    parse spelling.uri = .ok spelling.read :=
  parse_scheme_append_eq_ok_iff.mpr (ofName?_render hproper)

theorem exists_scheme_append {uri : String} (hscheme : scheme.isPrefixOf uri.toList = true) :
    ∃ text, uri = String.ofList (scheme ++ text) := by
  obtain ⟨text, htext⟩ := List.isPrefixOf_iff_prefix.mp hscheme
  exact ⟨text, by rw [htext, String.ofList_toList]⟩

/-- The texts that are read are those that are written. -/
theorem parse_eq_ok_iff {uri : String} {image : ImageReference} :
    parse uri = .ok image ↔
      ∃ spelling : Spelling, spelling.IsProper ∧ uri = spelling.uri ∧ image = spelling.read := by
  constructor
  · intro hparse
    have hscheme : scheme.isPrefixOf uri.toList = true := by
      by_contra hother
      unfold parse at hparse
      rw [if_neg hother] at hparse
      cases hparse
    obtain ⟨text, rfl⟩ := exists_scheme_append hscheme
    have hread := parse_scheme_append_eq_ok_iff.mp hparse
    obtain ⟨spelling, hproper, rfl, rfl⟩ := exists_spelling_of_ofName? hread
    exact ⟨spelling, hproper, rfl, rfl⟩
  · rintro ⟨spelling, hproper, rfl, rfl⟩
    exact parse_uri hproper

theorem parse_eq_error {uri : String} {error : Error} (hparse : parse uri = .error error) :
    error = .ofConfig (if scheme.isPrefixOf uri.toList then .missingImage uri
      else .invalidUri uri .notImageReference) := by
  unfold parse at hparse
  split at hparse
  next hscheme =>
    rw [if_pos hscheme]
    split at hparse
    next found hfound => cases hparse
    next hnone => exact (Except.error.inj hparse).symm
  next hother =>
    rw [if_neg hother]
    exact (Except.error.inj hparse).symm

/-! ## What an image that is read has -/

theorem ofList_ne_empty {text : List Char} (hne : text ≠ []) : String.ofList text ≠ "" :=
  fun heq => hne (String.ofList_eq_empty_iff.mp heq)

theorem Spelling.repository_read (spelling : Spelling) :
    spelling.read.repository = spelling.read.registry ∨
      ∃ path, spelling.read.repository = spelling.read.registry ++ "/" ++ path := by
  rcases Text.eq_headD_parts_or '/' spelling.repository with hhost | ⟨path, hpath⟩
  · exact Or.inl (congrArg String.ofList hhost)
  · refine Or.inr ⟨String.ofList path, ?_⟩
    have hglue := congrArg String.ofList hpath
    simpa [Spelling.read, ← String.toList_inj] using hglue

theorem Spelling.registry_read_eq_empty_iff {spelling : Spelling} (hproper : spelling.IsProper) :
    spelling.read.registry = "" ↔ "oci:///".toList <+: spelling.uri.toList := by
  obtain ⟨c, rest, hrepository⟩ := List.exists_cons_of_ne_nil hproper.repository_ne
  have hhead := Text.headD_parts_eq_nil_iff '/' hproper.repository_ne
  have hempty : spelling.read.registry = "" ↔ c = '/' := by
    rw [hrepository, List.head?_cons, Option.some.injEq] at hhead
    rw [← hhead, ← hrepository]
    exact String.ofList_eq_empty_iff
  have huri : spelling.uri.toList = "oci://".toList ++ c :: (rest ++
      '/' :: (spelling.image ++ marked ':' spelling.tag) ++ marked '@' spelling.digest) := by
    unfold Spelling.uri Spelling.render
    rw [String.toList_ofList, hrepository]
    rfl
  rw [hempty, huri, show "oci:///".toList = "oci://".toList ++ ['/'] from rfl,
    List.prefix_append_right_inj, List.cons_prefix_cons]
  simp [eq_comm]

/-- The texts that are read are those that are glued from proper pieces, and all others are
refused for their form.  An image that is read is named, stands at or below its registry, and is
asked for by some reference.  Its registry is missing exactly where a slash follows the scheme,
and its tag gives way to a digest and, where an empty digest is written, to `latest`. -/
theorem parse_leaves_gaps (uri : String) :
    (∀ image, parse uri = .ok image →
      (image.image ≠ "" ∧ '/' ∉ image.image.toList ∧ ':' ∉ image.image.toList ∧
          '@' ∉ image.image.toList) ∧
        image.reference ≠ "" ∧
        (image.repository = image.registry ∨
          ∃ path, image.repository = image.registry ++ "/" ++ path) ∧
        (image.registry = "" ↔ "oci:///".toList <+: uri.toList) ∧
        ∃ spelling : Spelling, spelling.IsProper ∧ uri = spelling.uri) ∧
      (∀ spelling : Spelling, spelling.IsProper → uri = spelling.uri →
        ∃ image, parse uri = .ok image ∧
          image.repository = String.ofList spelling.repository ∧
          image.image = String.ofList spelling.image ∧
          ∀ tag, spelling.tag = some tag → tag ≠ [] →
            (spelling.digest = none ∧ image.reference = String.ofList tag) ∨
              ∃ digest, spelling.digest = some digest ∧
                image.reference = if digest = [] then "latest" else String.ofList digest) ∧
      ∀ error, parse uri = .error error →
        error = .ofConfig (if "oci://".toList <+: uri.toList then .missingImage uri
          else .invalidUri uri .notImageReference) := by
  refine ⟨fun image hparse => ?_, fun spelling hproper huri => ?_, fun error hparse => ?_⟩
  · obtain ⟨spelling, hproper, rfl, rfl⟩ := parse_eq_ok_iff.mp hparse
    refine ⟨⟨ofList_ne_empty hproper.image_ne, ?_⟩, ofList_ne_empty spelling.version_ne_nil,
      spelling.repository_read, Spelling.registry_read_eq_empty_iff hproper,
      spelling, hproper, rfl⟩
    simpa [Spelling.read] using hproper.image
  · refine ⟨spelling.read, ?_, rfl, rfl, fun tag htag hne => ?_⟩
    · rw [huri]
      exact parse_uri hproper
    · rcases Spelling.version_of_tag htag hne with ⟨hnone, hversion⟩ | ⟨digest, hsome, hversion⟩
      · exact Or.inl ⟨hnone, congrArg String.ofList hversion⟩
      · refine Or.inr ⟨digest, hsome, ?_⟩
        rw [Spelling.read, hversion]
        split <;> rfl
  · rw [parse_eq_error hparse]
    simp only [List.isPrefixOf_iff_prefix]
    rfl

/-- A host that is left out and a tag before an empty digest are lost without an error. -/
theorem host_and_tag_lost :
    parse "oci:///team/app" = .ok ⟨"", "/team", "app", "latest"⟩ ∧
      parse "oci://ghcr.io/org/app:v1@" = .ok ⟨"ghcr.io", "ghcr.io/org", "app", "latest"⟩ := by
  constructor <;> rfl

/-! ## References with a registry -/

/-- A piece that is not empty and has neither slash nor at sign. -/
def IsSegment (text : String) : Prop := text ≠ "" ∧ '/' ∉ text.toList ∧ '@' ∉ text.toList

/-- The way a reference is written: the registry, the namespaces and the image between slashes,
then a tag and a digest. -/
def written (registry : String) (namespaces : List String) (image : String)
    (tag digest : Option String) : String :=
  "oci://" ++ String.intercalate "/" (registry :: namespaces ++ [image]) ++
    (tag.elim "" (":" ++ ·)) ++ (digest.elim "" ("@" ++ ·))

/-- The namespaces that an image stands in at its registry. -/
def namespacesAt (registry : String) (namespaces : List String) : List String :=
  if namespaces = [] then if isDockerHub registry then ["library"] else [] else namespaces

/-- The pieces of a reference that is written. -/
def Spelling.ofWritten (registry : String) (namespaces : List String) (image : String)
    (tag digest : Option String) : Spelling where
  repository := List.intercalate ['/'] ((registry :: namespaces).map String.toList)
  image := image.toList
  tag := tag.map String.toList
  digest := digest.map String.toList

section Written

variable {registry image : String} {namespaces : List String} {tag digest : Option String}

theorem toList_elim_marked (mark : Char) (piece : Option String) :
    (piece.elim "" (String.singleton mark ++ ·)).toList =
      marked mark (piece.map String.toList) := by
  cases piece <;> simp [marked]

theorem written_eq_uri (registry : String) (namespaces : List String) (image : String)
    (tag digest : Option String) :
    written registry namespaces image tag digest =
      (Spelling.ofWritten registry namespaces image tag digest).uri := by
  have hnames : List.intercalate ['/'] ((registry :: namespaces ++ [image]).map String.toList) =
      List.intercalate ['/'] ((registry :: namespaces).map String.toList) ++
        '/' :: image.toList := by
    rw [List.map_append, List.map_singleton,
      Text.intercalate_append_cons (by simp) '/' image.toList [], List.intercalate_singleton]
  have htag : (tag.elim "" (":" ++ ·)).toList = marked ':' (tag.map String.toList) :=
    toList_elim_marked ':' tag
  have hdigest : (digest.elim "" ("@" ++ ·)).toList = marked '@' (digest.map String.toList) :=
    toList_elim_marked '@' digest
  rw [← String.toList_inj]
  unfold written Spelling.uri Spelling.render Spelling.ofWritten
  rw [String.toList_ofList, String.toList_append, String.toList_append, String.toList_append,
    String.toList_intercalate, show "/".toList = ['/'] from rfl, hnames, htag, hdigest]
  simp [scheme]

/-- Names and marks of a reference as it should be written. -/
structure IsWritten (registry : String) (namespaces : List String) (image : String)
    (tag digest : Option String) : Prop where
  registry : IsSegment registry
  namespaces : ∀ name ∈ namespaces, IsSegment name
  image : IsSegment image ∧ ':' ∉ image.toList
  tag : ∀ text ∈ tag, IsSegment text
  digest : ∀ text ∈ digest, text ≠ ""

variable (hwritten : IsWritten registry namespaces image tag digest)

include hwritten

theorem IsWritten.segments : ∀ piece ∈ (registry :: namespaces).map String.toList,
    piece ≠ [] ∧ '/' ∉ piece ∧ '@' ∉ piece := by
  intro piece hpiece
  obtain ⟨name, hname, rfl⟩ := List.mem_map.mp hpiece
  have hsegment : IsSegment name := by
    rcases List.mem_cons.mp hname with rfl | hname
    · exact hwritten.registry
    · exact hwritten.namespaces name hname
  exact ⟨by simpa using hsegment.1, hsegment.2⟩

theorem IsWritten.isProper :
    (Spelling.ofWritten registry namespaces image tag digest).IsProper where
  repository_ne := Text.intercalate_ne_nil '/' (hwritten.segments _ List.mem_cons_self).1 _
  repository := by
    intro hat
    rcases Text.eq_or_mem_of_mem_intercalate hat with heq | ⟨piece, hpiece, hmem⟩
    · exact absurd heq (by decide)
    · exact (hwritten.segments piece hpiece).2.2 hmem
  image_ne := by
    have hname := hwritten.image.1.1
    simpa [Spelling.ofWritten] using hname
  image := ⟨hwritten.image.1.2.1, hwritten.image.2, hwritten.image.1.2.2⟩
  tag := by
    intro text htext
    obtain ⟨name, hname, rfl⟩ := Option.mem_map.mp htext
    exact (hwritten.tag name hname).2

theorem IsWritten.version :
    String.ofList (Spelling.ofWritten registry namespaces image tag digest).version =
      (digest.or tag).getD "latest" := by
  have hor : (digest.map String.toList).or (tag.map String.toList) =
      (digest.or tag).map String.toList := by
    cases digest <;> rfl
  have hne : ∀ text ∈ digest.or tag, text.toList ≠ [] := by
    intro text htext
    cases hdigest : digest with
    | some found =>
        rw [hdigest] at htext
        cases htext
        have hfound := hwritten.digest text hdigest
        simpa using hfound
    | none =>
        rw [hdigest, Option.none_or] at htext
        have hfound := (hwritten.tag text htext).1
        simpa using hfound
  simp only [Spelling.version, Spelling.ofWritten, hor]
  cases hfound : digest.or tag with
  | none => rfl
  | some text => simp [hne text hfound]

theorem IsWritten.registry_read :
    (Spelling.ofWritten registry namespaces image tag digest).read.registry = registry := by
  have hparts : Text.parts '/'
      (List.intercalate ['/'] ((registry :: namespaces).map String.toList)) =
        (registry :: namespaces).map String.toList :=
    Text.parts_intercalate (by simp) fun piece hpiece => (hwritten.segments piece hpiece).2.1
  simp only [Spelling.read, Spelling.ofWritten, hparts]
  simp

/-- What stands in the repository behind the registry. -/
theorem IsWritten.namespaced :
    Text.trimStart '/' ((Spelling.ofWritten registry namespaces image tag digest).read.repository
      |>.toList.drop registry.length) =
      List.intercalate ['/'] (namespaces.map String.toList) := by
  have hlength : registry.length = registry.toList.length := String.length_toList.symm
  simp only [Spelling.read, Spelling.ofWritten, String.toList_ofList, List.map_cons, hlength]
  cases namespaces with
  | nil => simp [Text.trimStart]
  | cons first rest =>
      have hsegment := hwritten.namespaces first List.mem_cons_self
      obtain ⟨c, others, hfirst⟩ : ∃ c others, first.toList = c :: others :=
        List.exists_cons_of_ne_nil (by simpa using hsegment.1)
      have hc : (c == '/') = false := by
        have hslash := hsegment.2.1
        rw [hfirst, List.mem_cons, not_or] at hslash
        exact beq_eq_false_iff_ne.mpr (Ne.symm hslash.1)
      -- the one slash before the namespaces goes, and they do not begin with another
      have hhead : ∀ x, (List.intercalate ['/'] ((first :: rest).map String.toList)).head? =
          some x → (x == '/') = false := by
        intro x hx
        cases rest <;> simp [hfirst, List.intercalate_cons_cons] at hx <;> exact hx ▸ hc
      rw [List.map_cons, List.intercalate_cons_cons, List.append_assoc, List.drop_left,
        List.singleton_append]
      unfold Text.trimStart
      rw [List.dropWhile_cons_of_pos (by simp), ← List.map_cons, Text.dropWhile_of_head? hhead]

theorem IsWritten.apiRepository_read :
    (Spelling.ofWritten registry namespaces image tag digest).read.apiRepository =
      String.intercalate "/" (namespacesAt registry namespaces ++ [image]) := by
  have himage : (Spelling.ofWritten registry namespaces image tag digest).read.image = image :=
    String.ofList_toList
  unfold apiRepository namespacesAt
  rw [hwritten.registry_read, hwritten.namespaced, himage]
  cases namespaces with
  | nil =>
      simp only [List.map_nil, List.intercalate_nil, ne_eq, not_true_eq_false, if_false, if_true]
      split <;> rfl
  | cons first rest =>
      have hfirst : first.toList ≠ [] := by
        simpa using (hwritten.namespaces first List.mem_cons_self).1
      have hne : List.intercalate ['/'] ((first :: rest).map String.toList) ≠ [] :=
        Text.intercalate_ne_nil '/' hfirst (rest.map String.toList)
      rw [if_pos hne, if_neg (List.cons_ne_nil _ _), ← String.toList_inj, String.toList_intercalate,
        List.map_append, List.map_singleton, show "/".toList = ['/'] from rfl,
        Text.intercalate_append_cons (by simp) '/' image.toList []]
      simp

end Written

/-- A reference that is written is read as it was written.  What the registry is asked for is the
namespaces and the image, where Docker Hub has a namespace for images without one. -/
theorem parse_of_written {registry image : String} {namespaces : List String}
    {tag digest : Option String} (hwritten : IsWritten registry namespaces image tag digest) :
    ∃ reference, parse (written registry namespaces image tag digest) = .ok reference ∧
      reference.registry = registry ∧
      reference.repository = String.intercalate "/" (registry :: namespaces) ∧
      reference.image = image ∧
      reference.reference = (digest.or tag).getD "latest" ∧
      reference.apiRepository =
        String.intercalate "/" (namespacesAt registry namespaces ++ [image]) := by
  refine ⟨_, ?_, hwritten.registry_read, ?_, String.ofList_toList, hwritten.version,
    hwritten.apiRepository_read⟩
  · rw [written_eq_uri]
    exact parse_uri hwritten.isProper
  · rw [← String.toList_inj, String.toList_intercalate]
    exact String.toList_ofList

theorem parse_of_written_port :
    IsWritten "localhost:5000" ["team", "tools"] "app" (some "v1:2") (some "sha256:ab/cd@ef") ∧
      ∃ reference,
        parse "oci://localhost:5000/team/tools/app:v1:2@sha256:ab/cd@ef" = .ok reference ∧
          reference.registry = "localhost:5000" ∧ reference.reference = "sha256:ab/cd@ef" ∧
          reference.apiRepository = "team/tools/app" := by
  have hwritten : IsWritten "localhost:5000" ["team", "tools"] "app" (some "v1:2")
      (some "sha256:ab/cd@ef") := by
    constructor <;> simp [IsSegment]
  have htext : written "localhost:5000" ["team", "tools"] "app" (some "v1:2")
      (some "sha256:ab/cd@ef") = "oci://localhost:5000/team/tools/app:v1:2@sha256:ab/cd@ef" := rfl
  obtain ⟨reference, hparse, hhost, -, -, hversion, hapi⟩ := parse_of_written hwritten
  rw [htext] at hparse
  exact ⟨hwritten, reference, hparse, hhost, hversion, hapi⟩

end ImageReference

end BuildProvenance
