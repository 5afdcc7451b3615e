import BuildProvenance.Proofs.Action
import BuildProvenance.Proofs.FileSystem.Directories
import BuildProvenance.Proofs.SortedMap
import BuildProvenance.Store.Bucket.LocalName
import BuildProvenance.Store.FileTree
import Mathlib.Tactic

/-!
# Local paths of objects

The local path of an object is made of the segments of its name that name
something, so folding it again changes nothing.  It leads to a file below the
working directory, and the path of that file, put together from its names, is
the local path again.  One of them leads on to another where that one begins
with it and a slash.
-/

namespace BuildProvenance

namespace LocalName

/-- The names of the file that an object is copied to. -/
def names (path : String) : List FileName := Text.parts Path.slash (Path.ofString path).bytes

variable {name path : String}

theorem mem_segments_iff {segment : List Char} :
    segment ∈ segments name ↔
      segment ∈ Text.parts '/' name.toList ∧ segment ≠ [] ∧ segment ≠ ['.'] := by
  simp [segments]

theorem escapes_eq_false_iff :
    escapes name = false ↔
      name.toList.head? ≠ some '/' ∧ ['.', '.'] ∉ Text.parts '/' name.toList := by
  simp [escapes, mem_segments_iff]

theorem of_eq_ok_iff :
    of name = .ok path ↔ escapes name = false ∧ segments name ≠ [] ∧
      path = String.ofList (List.intercalate ['/'] (segments name)) := by
  unfold of
  split
  next hescapes => simp [hescapes, Result.fail]
  next hinside =>
    rw [Bool.not_eq_true] at hinside
    split
    next hempty => simp [hempty, Result.fail]
    next hne => simp [hinside, hne, eq_comm]

theorem segments_ne_nil_iff :
    segments name ≠ [] ↔
      ∃ segment ∈ Text.parts '/' name.toList, segment ≠ [] ∧ segment ≠ ['.'] := by
  constructor
  · intro hne
    obtain ⟨segment, hsegment⟩ := List.exists_mem_of_ne_nil _ hne
    exact ⟨segment, mem_segments_iff.mp hsegment⟩
  · rintro ⟨segment, hsegment⟩
    exact List.ne_nil_of_mem (mem_segments_iff.mpr hsegment)

theorem exists_of_iff :
    (∃ path, of name = .ok path) ↔ name.toList.head? ≠ some '/' ∧
      ['.', '.'] ∉ Text.parts '/' name.toList ∧
        ∃ segment ∈ Text.parts '/' name.toList, segment ≠ [] ∧ segment ≠ ['.'] := by
  simp only [of_eq_ok_iff, exists_and_left, exists_eq, and_true, escapes_eq_false_iff, and_assoc,
    segments_ne_nil_iff]

theorem proper_of_mem_segments (hpath : of name = .ok path) {segment : List Char}
    (hsegment : segment ∈ segments name) :
    '/' ∉ segment ∧ segment ≠ [] ∧ segment ≠ ['.'] ∧ segment ≠ ['.', '.'] := by
  obtain ⟨hinside, -, -⟩ := of_eq_ok_iff.mp hpath
  obtain ⟨hpart, hne, hdot⟩ := mem_segments_iff.mp hsegment
  refine ⟨Text.not_mem_of_mem_parts hpart, hne, hdot, ?_⟩
  rintro rfl
  exact (escapes_eq_false_iff.mp hinside).2 hpart

/-- The segments of a local path are those of the name that name something. -/
theorem parts_of (hpath : of name = .ok path) : Text.parts '/' path.toList = segments name := by
  obtain ⟨-, hne, hglued⟩ := of_eq_ok_iff.mp hpath
  rw [hglued, String.toList_ofList]
  exact Text.parts_intercalate hne fun segment hsegment =>
    (proper_of_mem_segments hpath hsegment).1

theorem head_ne_slash_of (hpath : of name = .ok path) : path.toList.head? ≠ some '/' := by
  intro hhead
  have hempty := Text.nil_mem_parts_of_head hhead
  rw [parts_of hpath] at hempty
  exact (proper_of_mem_segments hpath hempty).2.1 rfl

theorem segments_of (hpath : of name = .ok path) : segments path = segments name := by
  have hkept : segments path = (segments name).filter fun segment =>
      segment ≠ [] ∧ segment ≠ ['.'] := by
    rw [← parts_of hpath]
    rfl
  rw [hkept]
  unfold segments
  simp

theorem of_of (hpath : of name = .ok path) : of path = .ok path := by
  obtain ⟨hinside, hne, hglued⟩ := of_eq_ok_iff.mp hpath
  refine of_eq_ok_iff.mpr ⟨?_, ?_, ?_⟩
  · refine escapes_eq_false_iff.mpr ⟨head_ne_slash_of hpath, fun hdots => ?_⟩
    rw [parts_of hpath] at hdots
    exact (proper_of_mem_segments hpath hdots).2.2.2 rfl
  · rwa [segments_of hpath]
  · rwa [segments_of hpath]

/-- A local path is glued from segments that are names of their own. -/
theorem exists_pieces (hpath : of name = .ok path) :
    ∃ pieces : List String, path = String.intercalate "/" pieces ∧ pieces ≠ [] ∧
      ∀ piece ∈ pieces, '/' ∉ piece.toList ∧ piece ≠ "" ∧ piece ≠ "." ∧ piece ≠ ".." := by
  obtain ⟨-, hne, hglued⟩ := of_eq_ok_iff.mp hpath
  refine ⟨(segments name).map String.ofList, ?_, by simpa using hne, fun piece hpiece => ?_⟩
  · rw [hglued]
    apply String.toList_inj.mp
    rw [String.toList_intercalate, List.map_map]
    simp [Function.comp_def]
  · obtain ⟨segment, hsegment, rfl⟩ := List.mem_map.mp hpiece
    obtain ⟨hslash, hempty, hdot, hdotDot⟩ := proper_of_mem_segments hpath hsegment
    simp only [ne_eq, ← String.toList_inj, String.toList_ofList]
    exact ⟨hslash, hempty, hdot, hdotDot⟩

theorem names_intercalate {pieces : List String} (hne : pieces ≠ [])
    (hpieces : ∀ piece ∈ pieces, '/' ∉ piece.toList) :
    names (String.intercalate "/" pieces) = pieces.map Utf8.encode := by
  unfold names Path.ofString
  simp only
  rw [Utf8.encode_intercalate]
  apply Text.parts_intercalate
  · simpa using hne
  · intro encoded hencoded
    obtain ⟨piece, hpiece, rfl⟩ := List.mem_map.mp hencoded
    exact Utf8.slash_not_mem_encode (hpieces piece hpiece)

theorem names_eq_map (path : String) :
    names path = (Text.parts '/' path.toList).map fun part => Utf8.encode (String.ofList part) := by
  have hglued : path = String.intercalate "/" ((Text.parts '/' path.toList).map String.ofList) := by
    apply String.toList_inj.mp
    rw [String.toList_intercalate, List.map_map]
    simp [Function.comp_def, Text.intercalate_parts]
  conv_lhs => rw [hglued]
  rw [names_intercalate (by simpa using Text.parts_ne_nil '/' path.toList), List.map_map]
  · rfl
  · intro piece hpiece
    obtain ⟨part, hpart, rfl⟩ := List.mem_map.mp hpiece
    rw [String.toList_ofList]
    exact Text.not_mem_of_mem_parts hpart

/-- One path leads on to another exactly when the other begins with it and a slash. -/
theorem above_names_iff (a b : String) :
    FileSystem.Above (names a) (names b) ↔ (a ++ "/").toList <+: b.toList := by
  have hinjective : Function.Injective fun part : List Char => Utf8.encode (String.ofList part) :=
    fun _ _ heq => String.ofList_injective (Utf8.encode_injective heq)
  rw [String.toList_append, show "/".toList = ['/'] from rfl, Text.concat_separator_prefix_iff,
    FileSystem.Above, names_eq_map, names_eq_map]
  constructor
  · rintro ⟨name, rest, heq⟩
    obtain ⟨front, back, hparts, hfront, hback⟩ := List.map_eq_append_iff.mp heq
    obtain ⟨part, others, rfl, -, -⟩ := List.map_eq_cons_iff.mp hback
    rw [hinjective.list_map hfront] at hparts
    exact ⟨part, others, hparts⟩
  · rintro ⟨part, rest, heq⟩
    exact ⟨_, _, by rw [heq, List.map_append, List.map_cons]⟩

theorem isEntry_of (hpath : of name = .ok path) :
    ∀ entry ∈ names path, FileName.IsEntry entry := by
  obtain ⟨pieces, rfl, hne, hpieces⟩ := exists_pieces hpath
  have hnames := names_intercalate hne fun piece hpiece => (hpieces piece hpiece).1
  rw [hnames]
  intro encoded hencoded
  obtain ⟨piece, hpiece, rfl⟩ := List.mem_map.mp hencoded
  obtain ⟨hslash, hempty, hdot, hdotDot⟩ := hpieces piece hpiece
  refine ⟨⟨fun heq => hempty ?_, Utf8.slash_not_mem_encode hslash⟩, fun heq => hdot ?_,
    fun heq => hdotDot ?_⟩
  · exact Utf8.encode_injective (heq.trans (by decide +kernel))
  · exact Utf8.encode_injective (heq.trans (by decide +kernel))
  · exact Utf8.encode_injective (heq.trans (by decide +kernel))

theorem leadsTo_of (hpath : of name = .ok path) : (Path.ofString path).LeadsTo (names path) :=
  Path.leadsTo_of_parts (isEntry_of hpath)

theorem identity_names (content : ByteArray) (modified : ℤ) (hpath : of name = .ok path) :
    FoundFile.identity ⟨names path, content, modified⟩ = path := by
  obtain ⟨pieces, rfl, hne, hpieces⟩ := exists_pieces hpath
  unfold FoundFile.identity
  simp only
  rw [names_intercalate hne fun piece hpiece => (hpieces piece hpiece).1,
    FileName.map_display_encode]

/-- Without links, whatever a local path leads to is below the working directory. -/
theorem above_place_of {fs : FileSystem} {follow : Bool} {located : Located}
    (hpath : of name = .ok path) (hplain : fs.root.Plain)
    (hlocated : fs.locate? follow (Path.ofString path) = some located) :
    FileSystem.Above fs.workingDirectory located.place := by
  have hleads := leadsTo_of hpath
  rw [FileSystem.locate?_of_leadsTo hleads] at hlocated
  split at hlocated
  next husable =>
    obtain ⟨hplace, -, -⟩ := FileSystem.walk_proper hplain hleads.proper hlocated
    obtain ⟨first, rest, hnames⟩ := List.exists_cons_of_ne_nil hleads.ne_nil
    exact ⟨first, rest, by rw [hplace, hnames]⟩
  next hother => cases hlocated

/-- A name has a local path when it does not begin with a slash, has no `..` and names something.
The path is then made of the segments that name something, is folded no further, and stays inside
the directory it is put below. -/
theorem of_stays_inside (name : String) :
    ((∃ path, of name = .ok path) ↔ name.toList.head? ≠ some '/' ∧
      ['.', '.'] ∉ Text.parts '/' name.toList ∧
        ∃ segment ∈ Text.parts '/' name.toList, segment ≠ [] ∧ segment ≠ ['.']) ∧
      ∀ path, of name = .ok path →
        path = String.ofList (List.intercalate ['/'] ((Text.parts '/' name.toList).filter
            fun segment => segment ≠ [] ∧ segment ≠ ['.'])) ∧
          path.toList.head? ≠ some '/' ∧
          (∀ segment ∈ Text.parts '/' path.toList,
            segment ≠ [] ∧ segment ≠ ['.'] ∧ segment ≠ ['.', '.']) ∧
          of path = .ok path ∧
          (∀ directory : String, Text.parts '/' (directory ++ "/" ++ path).toList =
            Text.parts '/' directory.toList ++ segments name) ∧
          ∀ (fs : FileSystem) (follow : Bool) (located : Located), fs.root.Plain →
            fs.locate? follow (Path.ofString path) = some located →
              FileSystem.Above fs.workingDirectory located.place := by
  refine ⟨exists_of_iff, fun path hpath => ?_⟩
  refine ⟨(of_eq_ok_iff.mp hpath).2.2, head_ne_slash_of hpath, fun segment hsegment => ?_,
    of_of hpath, fun directory => ?_, fun fs follow located => above_place_of hpath⟩
  · rw [parts_of hpath] at hsegment
    exact (proper_of_mem_segments hpath hsegment).2
  · rw [String.toList_append, String.toList_append, List.append_assoc,
      show "/".toList = ['/'] from rfl, List.singleton_append, Text.parts_append_separator,
      parts_of hpath]

/-- A working directory that holds an empty directory `out`. -/
def emptyOut : FileSystem :=
  ⟨.directory [(Utf8.encode "work", .directory [(Utf8.encode "out", .directory [])])],
    [Utf8.encode "work"], 0⟩

theorem of_stays_inside_folded : of "./out//a/." = .ok "out/a" ∧ of "out/a" = .ok "out/a" ∧
    ∃ located, emptyOut.locate? true (Path.ofString "out/a") = some located ∧
      FileSystem.Above emptyOut.workingDirectory located.place := by
  have hpath : of "./out//a/." = .ok "out/a" :=
    Result.toOption_eq_some_iff.mp (by decide +kernel)
  have hsingle : ∀ name node, Node.Plain node → (Node.directory [(name, node)]).Plain :=
    fun name node hnode => .directory (List.nodup_singleton _) (by simpa using hnode)
  have hplain : emptyOut.root.Plain := hsingle _ _ (hsingle _ _ Node.plain_empty)
  have hnames : names "out/a" = [Utf8.encode "out"] ++ [Utf8.encode "a"] := by decide +kernel
  have hfit : FileSystem.Fit ([Utf8.encode "out"] ++ [Utf8.encode "a"]) := by decide +kernel
  have hdirectory : emptyOut.root.IsDirectoryAt
      (emptyOut.workingDirectory ++ [Utf8.encode "out"]) :=
    ⟨[], by simp [emptyOut, Node.at?, Node.find?]⟩
  have hlocated : emptyOut.locate? true (Path.ofString "out/a") =
      some (.vacant (emptyOut.workingDirectory ++ [Utf8.encode "out"]) (Utf8.encode "a")) := by
    rw [FileSystem.locate?_of_leadsTo (leadsTo_of hpath), if_pos (by decide +kernel), hnames]
    exact FileSystem.walk_append_of_vacant hfit hdirectory
      (by simp [emptyOut, Node.at?, Node.find?])
  obtain ⟨-, -, -, hagain, -, hinside⟩ := (of_stays_inside "./out//a/.").2 "out/a" hpath
  exact ⟨hpath, hagain, _, hlocated, hinside emptyOut true _ hplain hlocated⟩

end LocalName

end BuildProvenance
