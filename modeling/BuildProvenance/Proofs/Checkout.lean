import BuildProvenance.Checkout.Basic
import BuildProvenance.Proofs.Action
import BuildProvenance.Proofs.FileSystem.Names
import BuildProvenance.Proofs.FileSystem.Writes
import BuildProvenance.Proofs.Locator
import BuildProvenance.Proofs.Text.Cut
import Mathlib.Tactic

/-!
# Checkouts as materials

The locator of a checkout is its remote, and behind an `@` the commit that is
checked out.  A commit is a hash, so where there is one the locator is cut
where it was glued.  Where there is none, the locator is the bare remote, and
an `@` of the remote itself may be taken for the separator: the remote stays
whole unless it ends in an `@` and something that could be a revision.
-/

namespace BuildProvenance

namespace Repository

variable {fs : FileSystem} {start names : List FileName} {text name : List UInt8} {hash : String}

def hexDigits : List Char := "0123456789abcdef".toList

/-- Forty digits in lower case. -/
structure IsHash (hash : String) : Prop where
  length : hash.toList.length = 40
  digits : hash.toList ⊆ hexDigits

theorem IsHash.isRevision (hhash : IsHash hash) : Locator.IsRevision hash where
  ne_empty := by
    rintro rfl
    exact absurd hhash.length (by decide)
  mark_not_mem := fun hmem => absurd (hhash.digits hmem) (by decide)
  slash_not_mem := fun hmem => absurd (hhash.digits hmem) (by decide)

theorem toLower_mem_hexDigits {byte : UInt8} (hdigit : (Hex.valueOf? byte.toNat).isSome = true) :
    (Char.ofNat byte.toNat).toLower ∈ hexDigits := by
  have hall : ∀ code < 256, (Hex.valueOf? code).isSome = true →
      (Char.ofNat code).toLower ∈ hexDigits := by
    decide +kernel
  exact hall _ byte.toNat_lt hdigit

theorem isHash_of_hash? (hread : hash? text = some hash) : IsHash hash := by
  unfold hash? at hread
  extract_lets digits at hread
  split at hread
  next hdigits =>
    obtain ⟨hlength, hall, -⟩ := hdigits
    cases hread
    constructor
    · simpa using hlength
    · intro c hc
      rw [String.toList_ofList] at hc
      obtain ⟨byte, hbyte, rfl⟩ := List.mem_map.mp hc
      exact toLower_mem_hexDigits (List.all_eq_true.mp hall byte hbyte)
  next hother => cases hread

theorem isHash_of_target? (hread : target? text = some (.commit hash)) : IsHash hash := by
  unfold target? at hread
  split at hread
  next rest hname => cases hread
  next hnone =>
    obtain ⟨found, hfound, hsame⟩ := Option.map_eq_some_iff.mp hread
    cases hsame
    exact isHash_of_hash? hfound

theorem isHash_of_looseTarget? (hread : looseTarget? fs start names = some (.commit hash)) :
    IsHash hash := by
  have hbound : ∀ content : Option (List UInt8),
      content.bind target? = some (.commit hash) → IsHash hash := by
    intro content hcontent
    obtain ⟨text, -, htarget⟩ := Option.bind_eq_some_iff.mp hcontent
    exact isHash_of_target? htarget
  unfold looseTarget? at hread
  split at hread
  next found target hlink =>
    split at hread
    next hname => cases hread
    next hother => exact hbound _ hread
  next hother => exact hbound _ hread

theorem isHash_of_packed? (hread : packed? text name = some hash) : IsHash hash := by
  obtain ⟨line, -, hline⟩ := List.exists_of_findSome?_eq_some hread
  split at hline
  next found listed hcut =>
    split at hline
    next hname => exact isHash_of_hash? hline
    next hother => cases hline
  next hnone => cases hline

theorem isHash_of_commitOf? {repository : Repository} {steps : ℕ}
    (hcommit : repository.commitOf? fs steps name = some hash) : IsHash hash := by
  induction steps generalizing name with
  | zero => cases hcommit
  | succ steps ih =>
      unfold commitOf? at hcommit
      extract_lets start packed at hcommit
      split at hcommit
      next hnone => cases hcommit
      next found htarget =>
        cases hcommit
        rcases Option.or_eq_some_iff.mp htarget with hloose | ⟨-, hpacked⟩
        · exact isHash_of_looseTarget? hloose
        · obtain ⟨found, hfound, hsame⟩ := Option.map_eq_some_iff.mp hpacked
          cases hsame
          obtain ⟨text, -, hread⟩ := Option.bind_eq_some_iff.mp hfound
          exact isHash_of_packed? hread
      next other htarget => exact ih hcommit

/-! ### The files of a repository -/

theorem bytes_inj {a b : String} : bytes a = bytes b ↔ a = b :=
  ⟨fun heq => Utf8.encode_injective heq, congrArg bytes⟩

variable {content : ByteArray} {modified : ℤ} {entries : List (FileName × Node)}
  {front own : List FileName} {last : FileName}

theorem read?_of_file (hfit : FileSystem.Fit names) (hne : names ≠ [])
    (hfile : fs.root.at? (start ++ names) = some (.file content modified)) :
    read? fs start names = some content.toList := by
  unfold read? node?
  rw [FileSystem.walk_of_file hfit hne hfile]

theorem read?_of_vacant (hfit : FileSystem.Fit (front ++ [last]))
    (hdirectory : fs.root.IsDirectoryAt (start ++ front))
    (hvacant : fs.root.at? (start ++ front ++ [last]) = none) :
    read? fs start (front ++ [last]) = none := by
  unfold read? node?
  rw [FileSystem.walk_append_of_vacant hfit hdirectory hvacant]

theorem node?_of_directory (hfit : FileSystem.Fit names)
    (hentries : fs.root.at? (start ++ names) = some (.directory entries)) :
    node? fs start names = some (.found (start ++ names) (.directory entries)) :=
  FileSystem.walk_of_directory hfit hentries

theorem directory?_of_directory (hfit : FileSystem.Fit names)
    (hentries : fs.root.at? (start ++ names) = some (.directory entries)) :
    directory? fs start names = some (start ++ names) := by
  unfold directory?
  rw [node?_of_directory hfit hentries]

theorem looseTarget?_of_file (hfit : FileSystem.Fit names) (hne : names ≠ [])
    (hfile : fs.root.at? (start ++ names) = some (.file content modified)) :
    looseTarget? fs start names = target? content.toList := by
  unfold looseTarget?
  rw [FileSystem.walk_of_file hfit hne hfile, read?_of_file hfit hne hfile]
  rfl

theorem looseTarget?_of_vacant (hfit : FileSystem.Fit (front ++ [last]))
    (hdirectory : fs.root.IsDirectoryAt (start ++ front))
    (hvacant : fs.root.at? (start ++ front ++ [last]) = none) :
    looseTarget? fs start (front ++ [last]) = none := by
  unfold looseTarget?
  rw [FileSystem.walk_append_of_vacant hfit hdirectory hvacant,
    read?_of_vacant hfit hdirectory hvacant]
  rfl

/-- A directory with the parts of a repository is one that shares nothing. -/
theorem at?_of_parts (hcommon : read? fs own [bytes "commondir"] = none)
    (hobjects : directory? fs own [bytes "objects"] = some (own ++ [bytes "objects"]))
    (hrefs : directory? fs own [bytes "refs"] = some (own ++ [bytes "refs"]))
    (hhead : hasHead fs own = true) : at? fs own = some ⟨own, own⟩ := by
  unfold at? sharedOf?
  rw [hcommon]
  simp [hobjects, hrefs, hhead]

theorem look_of_directory {repository : Repository}
    (hgit : node? fs start [bytes ".git"] = some (.found own (.directory entries)))
    (hown : at? fs own = some repository) : look fs start = .repository repository := by
  unfold look
  rw [hgit]
  simp only [hown]

end Repository

namespace Checkout

open Locator

variable {fs : FileSystem} {path : Path} {repository : Repository}
  {remote front revision commit : String}

def marked (remote : String) : String :=
  if remote.startsWith mark then remote else mark ++ remote

theorem startsWith_mark_glued (front revision : String) :
    (front ++ "@" ++ revision).startsWith mark = front.startsWith mark := by
  have hmark : '@' ∉ mark.toList := by decide
  rw [Bool.eq_iff_iff, String.startsWith_string_iff, String.startsWith_string_iff, toList_glued,
    Text.prefix_append_separator_iff hmark]

theorem marked_glued (front revision : String) :
    marked (front ++ "@" ++ revision) = marked front ++ "@" ++ revision := by
  unfold marked
  rw [startsWith_mark_glued]
  split
  next hmarked => rfl
  next hbare => simp only [String.append_assoc]

theorem mark_prefix_marked (remote : String) : mark.toList <+: (marked remote).toList := by
  unfold marked
  split
  next hmarked => exact String.startsWith_string_iff.mp hmarked
  next hbare =>
    rw [String.toList_append]
    exact List.prefix_append _ _

theorem marked_ne_empty (remote : String) : marked remote ≠ "" := by
  intro hempty
  have hprefix := mark_prefix_marked remote
  rw [hempty] at hprefix
  exact absurd hprefix (by decide)

/-- A marked remote is cut where the remote itself is. -/
theorem exists_glued_of_marked {front : String}
    (hglued : marked remote = front ++ "@" ++ revision) :
    ∃ front, remote = front ++ "@" ++ revision := by
  by_cases hmarked : remote.startsWith mark = true
  · refine ⟨front, ?_⟩
    rw [← hglued]
    exact (if_pos hmarked).symm
  · have hbare : marked remote = mark ++ remote := if_neg hmarked
    have hfront : mark.toList <+: front.toList := by
      have hprefix := mark_prefix_marked remote
      rw [hglued, toList_glued] at hprefix
      exact (Text.prefix_append_separator_iff (by decide)).mp hprefix
    obtain ⟨rest, hrest⟩ := hfront
    refine ⟨String.ofList rest, ?_⟩
    rw [hbare, ← String.toList_inj, toList_glued, ← hrest, String.toList_append,
      List.append_assoc, List.append_right_inj] at hglued
    rw [← String.toList_inj, toList_glued, String.toList_ofList, hglued]

theorem ofLocator_of_commit (remote : String) (hcommit : IsRevision commit) :
    Material.ofLocator (locator remote (some commit)) =
      ⟨marked remote, SortedMap.singleton "sha1" commit⟩ :=
  Material.ofLocator_glued (marked_ne_empty remote) hcommit

theorem ofLocator_of_cut_remote (hrevision : IsRevision revision) :
    Material.ofLocator (locator (front ++ "@" ++ revision) none) =
      ⟨marked front, SortedMap.singleton "sha1" revision⟩ := by
  have hlocator : locator (front ++ "@" ++ revision) none = marked front ++ "@" ++ revision :=
    marked_glued front revision
  rw [hlocator]
  exact Material.ofLocator_glued (marked_ne_empty front) hrevision

theorem ofLocator_bare_iff :
    Material.ofLocator (locator remote none) = ⟨marked remote, .empty⟩ ↔
      ¬∃ front revision, remote = front ++ "@" ++ revision ∧ IsRevision revision := by
  constructor
  · rintro hwhole ⟨front, revision, rfl, hrevision⟩
    rw [ofLocator_of_cut_remote hrevision] at hwhole
    have hdigest : SortedMap.singleton "sha1" revision = .empty := congrArg Material.digest hwhole
    exact absurd (congrArg SortedMap.size hdigest) Nat.one_ne_zero
  · intro hwhole
    refine Material.ofLocator_of_not_glued ?_
    rintro ⟨repository, revision, -, hrevision, hglued⟩
    obtain ⟨front, hfront⟩ := exists_glued_of_marked hglued
    exact hwhole ⟨front, revision, hfront, hrevision⟩

theorem locatorOf?_of_remote (hdirectory : fs.isDirectory path = true)
    (hfound : Repository.find? fs path = some repository)
    (hremote : remoteOf? repository fs = .ok (some remote)) :
    locatorOf? fs path = .ok (some (locator remote (repository.head? fs))) := by
  unfold locatorOf?
  rw [if_neg (by simp [hdirectory]), hfound]
  simp only [hremote]
  rfl

/-- The material of a checkout.  With a commit checked out it is the remote at that commit.
Without one, it is the remote without a digest exactly if the remote does not end in an `@` and a
text that could be a revision; if it does, that text becomes the digest of what stands before. -/
theorem material_keeps_remote_iff (hdirectory : fs.isDirectory path = true)
    (hfound : Repository.find? fs path = some repository)
    (hremote : remoteOf? repository fs = .ok (some remote)) :
    ∃ locator, locatorOf? fs path = .ok (some locator) ∧
      (∀ commit, repository.head? fs = some commit →
        Repository.IsHash commit ∧
          Material.ofLocator locator = ⟨marked remote, SortedMap.singleton "sha1" commit⟩) ∧
      (repository.head? fs = none →
        (Material.ofLocator locator = ⟨marked remote, .empty⟩ ↔
            ¬∃ front revision, remote = front ++ "@" ++ revision ∧ IsRevision revision) ∧
          ∀ front revision, remote = front ++ "@" ++ revision → IsRevision revision →
            Material.ofLocator locator =
              ⟨marked front, SortedMap.singleton "sha1" revision⟩) := by
  refine ⟨_, locatorOf?_of_remote hdirectory hfound hremote, ?_, ?_⟩
  · intro commit hhead
    have hhash : Repository.IsHash commit := Repository.isHash_of_commitOf? hhead
    rw [hhead]
    exact ⟨hhash, ofLocator_of_commit remote hhash.isRevision⟩
  · intro hnone
    rw [hnone]
    refine ⟨ofLocator_bare_iff, ?_⟩
    rintro front revision rfl hrevision
    exact ofLocator_of_cut_remote hrevision

/-! A remote in the short form `user@host:path`, without and with a commit. -/

def textFile (text : String) : Node := .file (Utf8.encode text).toByteArray 0

/-- A working tree on the branch `main`, which is there if it is among the heads. -/
def cloned (heads : List (FileName × Node)) : FileSystem :=
  ⟨.directory [(Repository.bytes ".git", .directory [
    (Repository.bytes "HEAD", textFile "ref: refs/heads/main\n"),
    (Repository.bytes "config",
      textFile "[remote \"origin\"]\n\turl = git@host.example:app.git\n"),
    (Repository.bytes "objects", .directory []),
    (Repository.bytes "refs", .directory [(Repository.bytes "heads", .directory heads)])])],
    [], 0⟩

def clonedRepository : Repository := ⟨[Repository.bytes ".git"], [Repository.bytes ".git"]⟩

def mainHead : List (FileName × Node) :=
  [(Repository.bytes "main", textFile "0123456789abcdef0123456789abcdef01234567\n")]

section Cloned

open Repository

variable (heads : List (FileName × Node))

theorem toList_textFile (text : String) : (Utf8.encode text).toByteArray.toList = bytes text :=
  Utf8.toList_toByteArray _

theorem at?_cloned (names : List FileName) :
    (cloned heads).root.at? (bytes ".git" :: names) = (Node.directory [
      (bytes "HEAD", textFile "ref: refs/heads/main\n"),
      (bytes "config", textFile "[remote \"origin\"]\n\turl = git@host.example:app.git\n"),
      (bytes "objects", .directory []),
      (bytes "refs", .directory [(bytes "heads", .directory heads)])]).at? names := by
  simp [cloned, Node.at?, Node.find?]

theorem isDirectoryAt_cloned : (cloned heads).root.IsDirectoryAt ([bytes ".git"] ++ []) :=
  ⟨_, at?_cloned heads []⟩

/-- A name that is none of the four is not there. -/
theorem read?_cloned_of_other {name : String}
    (hother : ∀ entry ∈ ["HEAD", "config", "objects", "refs"], entry ≠ name)
    (hfit : FileSystem.Fit ([] ++ [bytes name])) :
    read? (cloned heads) [bytes ".git"] [bytes name] = none := by
  refine read?_of_vacant hfit (isDirectoryAt_cloned heads) ?_
  simp only [List.forall_mem_cons] at hother
  simp [at?_cloned, Node.at?, Node.find?, bytes_inj, hother]

theorem looseTarget?_head_cloned : looseTarget? (cloned heads) [bytes ".git"] [bytes "HEAD"] =
    some (.name (bytes "refs/heads/main")) := by
  have hfile : (cloned heads).root.at? ([bytes ".git"] ++ [bytes "HEAD"]) =
      some (textFile "ref: refs/heads/main\n") := by
    simp [at?_cloned, Node.at?, Node.find?]
  rw [looseTarget?_of_file (by decide +kernel) (List.cons_ne_nil _ _) hfile, toList_textFile]
  decide +kernel

theorem at?_git_cloned : Repository.at? (cloned heads) [bytes ".git"] = some clonedRepository := by
  refine at?_of_parts ?hcommon ?hobjects ?hrefs ?hhead
  case hcommon =>
    exact read?_cloned_of_other heads (by decide) (by decide +kernel)
  case hobjects =>
    have hentries : (cloned heads).root.at? ([bytes ".git"] ++ [bytes "objects"]) =
        some (.directory []) := by
      simp [at?_cloned, Node.at?, Node.find?, bytes_inj]
    exact directory?_of_directory (by decide +kernel) hentries
  case hrefs =>
    have hentries : (cloned heads).root.at? ([bytes ".git"] ++ [bytes "refs"]) =
        some (.directory [(bytes "heads", .directory heads)]) := by
      simp [at?_cloned, Node.at?, Node.find?, bytes_inj]
    exact directory?_of_directory (by decide +kernel) hentries
  case hhead =>
    unfold hasHead
    rw [looseTarget?_head_cloned]
    decide +kernel

theorem locate?_cloned : (cloned heads).locate? true (Path.ofString ".") =
    some (.found [] (cloned heads).root) := by
  have husable : (Path.ofString ".").isUsable = true := by decide +kernel
  have hrelative : (Path.ofString ".").isAbsolute = false := by decide +kernel
  have hnames : (Path.ofString ".").names = [FileName.dot] := by decide +kernel
  simp [FileSystem.locate?, husable, hrelative, hnames, FileSystem.walk, Node.at?, cloned]

theorem find?_cloned :
    (cloned heads).isDirectory (Path.ofString ".") = true ∧
      Repository.find? (cloned heads) (Path.ofString ".") = some clonedRepository ∧
      remoteOf? clonedRepository (cloned heads) = .ok (some "git@host.example:app.git") := by
  refine ⟨?_, ?_, ?_⟩
  · unfold FileSystem.isDirectory FileSystem.node?
    rw [locate?_cloned]
    rfl
  · have hlook : look (cloned heads) [] = .repository clonedRepository :=
      look_of_directory (node?_of_directory (by decide +kernel) (at?_cloned heads []))
        (at?_git_cloned heads)
    have hsearch : search (cloned heads) [] = some clonedRepository := by
      rw [search, hlook]
    unfold Repository.find?
    rw [locate?_cloned]
    exact hsearch
  · have hfile : (cloned heads).root.at? ([bytes ".git"] ++ [bytes "config"]) =
        some (textFile "[remote \"origin\"]\n\turl = git@host.example:app.git\n") := by
      simp [at?_cloned, Node.at?, Node.find?, bytes_inj]
    have hread : clonedRepository.setting? (cloned heads) "remote.origin.url" =
        some (bytes "git@host.example:app.git") := by
      unfold setting?
      rw [show clonedRepository.shared = [bytes ".git"] from rfl,
        read?_of_file (by decide +kernel) (List.cons_ne_nil _ _) hfile, toList_textFile]
      decide +kernel
    unfold remoteOf?
    rw [hread]
    decide +kernel

/-- The commit of `main` is the one that is checked out. -/
theorem head?_cloned {commit : Option String}
    (hloose : looseTarget? (cloned heads) [bytes ".git"]
      [bytes "refs", bytes "heads", bytes "main"] = commit.map .commit) :
    clonedRepository.head? (cloned heads) = commit := by
  have hpacked : read? (cloned heads) [bytes ".git"] [bytes "packed-refs"] = none :=
    read?_cloned_of_other heads (by decide) (by decide +kernel)
  have hhead : (Path.mk (bytes "HEAD")).names = [bytes "HEAD"] := by decide +kernel
  have hnames : (Path.mk (bytes "refs/heads/main")).names =
      [bytes "refs", bytes "heads", bytes "main"] := by
    decide +kernel
  have hmain : clonedRepository.commitOf? (cloned heads) 4 (bytes "refs/heads/main") = commit := by
    rw [commitOf?]
    cases commit <;> simp [clonedRepository, hpacked, hnames, bytes_inj, hloose]
  unfold head? maxReferences
  rw [commitOf?]
  simp [clonedRepository, hpacked, hhead, looseTarget?_head_cloned, ← hmain]

theorem head?_cloned_mainHead : clonedRepository.head? (cloned mainHead) =
    some "0123456789abcdef0123456789abcdef01234567" := by
  have hfile : (cloned mainHead).root.at?
      ([bytes ".git"] ++ [bytes "refs", bytes "heads", bytes "main"]) =
        some (textFile "0123456789abcdef0123456789abcdef01234567\n") := by
    simp [at?_cloned, mainHead, Node.at?, Node.find?, bytes_inj]
  refine head?_cloned mainHead ?_
  rw [looseTarget?_of_file (by decide +kernel) (List.cons_ne_nil _ _) hfile, toList_textFile]
  decide +kernel

theorem head?_cloned_nil : clonedRepository.head? (cloned []) = none := by
  have hheads : (cloned []).root.at? ([bytes ".git"] ++ [bytes "refs", bytes "heads"]) =
      some (.directory []) := by
    simp [at?_cloned, Node.at?, Node.find?, bytes_inj]
  refine head?_cloned [] (looseTarget?_of_vacant (by decide +kernel) ⟨_, hheads⟩ ?_)
  simp [at?_cloned, Node.at?, Node.find?, bytes_inj]

end Cloned

theorem material_keeps_remote_iff_short :
    ∃ locator, locatorOf? (cloned mainHead) (Path.ofString ".") = .ok (some locator) ∧
      Material.ofLocator locator = ⟨"git+git@host.example:app.git",
        SortedMap.singleton "sha1" "0123456789abcdef0123456789abcdef01234567"⟩ := by
  obtain ⟨hdirectory, hfound, hremote⟩ := find?_cloned mainHead
  have hmarked : marked "git@host.example:app.git" = "git+git@host.example:app.git" := by
    decide +kernel
  obtain ⟨locator, hlocator, hcommit, -⟩ :=
    material_keeps_remote_iff hdirectory hfound hremote
  exact ⟨locator, hlocator, hmarked ▸ (hcommit _ head?_cloned_mainHead).2⟩

/-- Without a commit the host and the path of the remote are taken for one. -/
theorem remote_cut_without_commit :
    clonedRepository.head? (cloned []) = none ∧
      locatorOf? (cloned []) (Path.ofString ".") = .ok (some "git+git@host.example:app.git") ∧
      Material.ofLocator "git+git@host.example:app.git" =
        ⟨"git+git", SortedMap.singleton "sha1" "host.example:app.git"⟩ := by
  obtain ⟨hdirectory, hfound, hremote⟩ := find?_cloned []
  have hlocator := locatorOf?_of_remote hdirectory hfound hremote
  have hwritten : locator "git@host.example:app.git" none = "git+git@host.example:app.git" := by
    decide +kernel
  rw [head?_cloned_nil, hwritten] at hlocator
  exact ⟨head?_cloned_nil, hlocator, by decide +kernel⟩

end Checkout

end BuildProvenance
