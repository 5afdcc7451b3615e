import BuildProvenance.Http.Storage
import BuildProvenance.Proofs.Action
import BuildProvenance.Proofs.Bucket.LocalName
import BuildProvenance.Proofs.Encoding.Percent
import Mathlib.Tactic

/-!
# Where objects are downloaded from

An object is asked for by its whole name, as one segment of a path.  Tabs and
line ends do not reach the segment, and what is left of the name may then be
nothing, a dot or two dots, which a path has no segment for.  Two objects share
a target exactly when nothing else tells their names apart; all other names are
read back from their targets.
-/

namespace BuildProvenance

namespace Url

variable {special : Bool} {front : List (List Char)} {a b name : List Char}

/-- What of a name gets into a path. -/
def carried (name : List Char) : List Char :=
  let text := name.filter fun c => !isDropped c
  if text = ['.'] then [] else text

theorem carried_of_not_isDropped (hkept : ∀ c ∈ name, isDropped c = false) (hdot : name ≠ ['.']) :
    carried name = name := by
  have hall : name.filter (fun c => !isDropped c) = name :=
    List.filter_eq_self.mpr fun c hc => by simp [hkept c hc]
  unfold carried
  simp only [hall, if_neg hdot]

theorem not_isDropped_of_mem_carried {c : Char} (hmem : c ∈ carried name) :
    isDropped c = false := by
  unfold carried at hmem
  simp only at hmem
  split at hmem
  next hdot => cases hmem
  next hdot => simpa using (List.mem_filter.mp hmem).2

/-- The path of an object below the one of its bucket, which is `front` and a last segment. -/
def below (special : Bool) (front : List (List Char)) (name : List Char) : List (List Char) :=
  if carried name = ['.', '.'] then front ++ [[]]
  else front ++ [['o'], Percent.encode (inSegmentSet special) (carried name)]

theorem inSegmentSet_percent (special : Bool) : inSegmentSet special '%' = true := by
  cases special <;> decide

theorem exists_addSegment_collection (special : Bool) (segments : List (List Char)) :
    ∃ front, addSegment special segments ['o'] = front ++ [['o']] := by
  refine ⟨if segments = [[]] then [] else segments, ?_⟩
  have hplain : Percent.encode (inSegmentSet special) ['o'] = ['o'] := by
    cases special <;> decide
  have hsame : ['o'].filter (fun c => !isDropped c) = ['o'] := by decide
  unfold addSegment
  simp only [hsame, hplain]
  rfl

theorem addSegment_object (hdots : name ≠ ['.'] ∧ name ≠ ['.', '.']) :
    addSegment special (front ++ [['o']]) name = below special front name := by
  have hkept : front ++ [['o']] ≠ [[]] := by
    intro heq
    have hlast := congrArg List.getLast? heq
    simp at hlast
  unfold addSegment below carried
  simp only [hdots, or_self, if_false, hkept]
  by_cases hdot : name.filter (fun c => !isDropped c) = ['.']
  · simp [hdot]
  · simp [hdot]

theorem render_append_inj {rest other : List (List Char)} :
    (Hierarchy.segments (front ++ rest)).render = (Hierarchy.segments (front ++ other)).render ↔
      (Hierarchy.segments rest).render = (Hierarchy.segments other).render := by
  simp only [Hierarchy.render, List.flatMap_append, List.append_cancel_left_eq]

/-- Paths of objects tell apart what is carried of their names. -/
theorem render_below_inj :
    (Hierarchy.segments (below special front a)).render =
        (Hierarchy.segments (below special front b)).render ↔ carried a = carried b := by
  constructor
  · intro hsame
    unfold below at hsame
    split at hsame <;> split at hsame
    next hdotsA hdotsB => rw [hdotsA, hdotsB]
    next hdotsA hdotsB => simpa [Hierarchy.render] using render_append_inj.mp hsame
    next hdotsA hdotsB => simpa [Hierarchy.render] using render_append_inj.mp hsame
    next hdotsA hdotsB =>
      have hlast : Percent.encode (inSegmentSet special) (carried a) =
          Percent.encode (inSegmentSet special) (carried b) := by
        simpa [Hierarchy.render] using render_append_inj.mp hsame
      exact Percent.encode_injective (inSegmentSet_percent special) hlast
  · intro hcarried
    unfold below
    rw [hcarried]

/-- A name is read back when all of it was carried. -/
theorem exists_decode_below_iff (hempty : name ≠ []) (hdots : name ≠ ['.'] ∧ name ≠ ['.', '.']) :
    (∃ before segment, below special front name = before ++ [['o'], segment] ∧
        Percent.decode (Utf8.encode (String.ofList segment)) = Utf8.encode (String.ofList name)) ↔
      ∀ c ∈ name, isDropped c = false := by
  constructor
  · rintro ⟨before, segment, hbelow, hdecode⟩
    have hlast := congrArg List.getLast? hbelow
    unfold below at hlast
    split at hlast
    next hcarried =>
      have hsegment : segment = [] := by simpa using hlast.symm
      have hnone : Percent.decode (Utf8.encode (String.ofList [])) = Utf8.encode "" := by
        decide +kernel
      rw [hsegment, hnone] at hdecode
      have htext : "" = String.ofList name := Utf8.encode_injective hdecode
      exact absurd (by simpa using htext) hempty
    next hcarried =>
      have hsegment : segment = Percent.encode (inSegmentSet special) (carried name) := by
        simpa using hlast.symm
      rw [hsegment, Percent.decode_encode (inSegmentSet_percent special)] at hdecode
      have hall : carried name = name := String.ofList_injective (Utf8.encode_injective hdecode)
      intro c hc
      rw [← hall] at hc
      exact not_isDropped_of_mem_carried hc
  · intro hkept
    have hall := carried_of_not_isDropped hkept hdots.1
    refine ⟨front, Percent.encode (inSegmentSet special) name, ?_,
      Percent.decode_encode (inSegmentSet_percent special) name⟩
    unfold below
    rw [hall, if_neg hdots.2]

end Url

namespace LocalName

theorem not_dots_of {name path : String} (hpath : of name = .ok path) :
    name.toList ≠ [] ∧ name.toList ≠ ['.'] ∧ name.toList ≠ ['.', '.'] := by
  have hempty : (of "").toOption = none := rfl
  have hdot : (of ".").toOption = none := rfl
  have hdots : (of "..").toOption = none := rfl
  have hok : (of name).toOption = some path := Result.toOption_eq_some_iff.mpr hpath
  refine ⟨fun heq => ?_, fun heq => ?_, fun heq => ?_⟩
  · rw [show name = "" from String.toList_inj.mp heq, hempty] at hok
    cases hok
  · rw [show name = "." from String.toList_inj.mp heq, hdot] at hok
    cases hok
  · rw [show name = ".." from String.toList_inj.mp heq, hdots] at hok
    cases hok

end LocalName

namespace Http

variable {base bucket : String} {url : Url} {segments : List (List Char)}

/-- The URLs of one bucket's objects differ in the paths below the bucket's. -/
theorem exists_downloadUrl (hbase : Url.parse base = .ok url)
    (hsegments : url.path = .segments segments) (bucket : String) :
    ∃ (special : Bool) (front : List (List Char)) (query : List Char), ∀ name path,
      LocalName.of name = .ok path →
        downloadUrl base ⟨bucket, name⟩ = .ok { url with
          path := .segments (Url.below special front name.toList)
          query := some query } := by
  set special := (Url.SchemeKind.of url.scheme).isSpecial with hspecial
  set start := if segments.getLast? = some [] ∧ segments ≠ [[]] then segments.dropLast
    else segments with hstart
  obtain ⟨front, hfront⟩ := Url.exists_addSegment_collection special
    (["download", "storage", "v1", "b", bucket].foldl
      (fun path segment => Url.addSegment special path segment.toList) start)
  refine ⟨special, front, [("alt", "media")].foldl Url.addPair (url.query.getD []),
    fun name path hpath => ?_⟩
  obtain ⟨-, hdot, hdots⟩ := LocalName.not_dots_of hpath
  have hfold : ["download", "storage", "v1", "b", bucket, "o", name].foldl
      (fun path segment => Url.addSegment special path segment.toList) start =
        Url.below special front name.toList := by
    rw [← Url.addSegment_object ⟨hdot, hdots⟩, ← hfront]
    rfl
  unfold downloadUrl storageUrl
  simp only [hbase, Url.addSegments?, hsegments]
  rw [← hstart, ← hspecial, hfold]
  rfl

variable {σ : Type} {transport : Transport σ} {token : Option String}

/-- A download sends one request. -/
theorem transport_downloadObject {request : DownloadRequest}
    (hurl : downloadUrl base request = .ok url)
    (hscheme : url.scheme = "http".toList ∨ url.scheme = "https".toList)
    (htoken : (token.map bearer).all isHeaderValue = true) (now : σ → ℤ) (session : Session σ) :
    (downloadObject transport base token now request session).2.transport =
      (transport.ask ⟨url, token.map bearer, none⟩ session.transport).2 := by
  have hsent : (send transport (.ok url) (token.map bearer) none session).2.transport =
      (transport.ask ⟨url, token.map bearer, none⟩ session.transport).2 := by
    unfold send
    simp only [hscheme, htoken, and_self, if_true]
  have hfetched : (fetch transport token url session).2.transport =
      (transport.ask ⟨url, token.map bearer, none⟩ session.transport).2 := by
    rw [← hsent]
    unfold fetch
    split
    next error after hfailed => rw [hfailed]
    next response after hanswered =>
      rw [hanswered]
      split <;> rfl
  rw [← hfetched]
  unfold downloadObject
  rw [hurl]
  split
  next error hfailed => cases hfailed
  next found hfound =>
    cases hfound
    split
    next error after hfailed => rw [hfailed]
    next response after hanswered => rw [hanswered]

/-- Each object is asked for at a URL of its own, unless what is carried of their names is the
same; then they are the same download.  A name is read back from the last segment exactly when no
character of it is dropped, and such names never share a target. -/
theorem downloadUrl_target_eq_iff (transport : Transport σ) (token : Option String) (now : σ → ℤ)
    (bucket : String) {a b pathA pathB : String} (hbase : Url.parse base = .ok url)
    (hsegments : url.path = .segments segments) (ha : LocalName.of a = .ok pathA)
    (hb : LocalName.of b = .ok pathB) :
    ∃ first second : Url, downloadUrl base ⟨bucket, a⟩ = .ok first ∧
      downloadUrl base ⟨bucket, b⟩ = .ok second ∧
      (url.scheme = "http".toList ∨ url.scheme = "https".toList →
        (token.map bearer).all isHeaderValue = true → ∀ session,
          (downloadObject transport base token now ⟨bucket, a⟩ session).2.transport =
            (transport.ask ⟨first, token.map bearer, none⟩ session.transport).2) ∧
      (first.target = second.target ↔ Url.carried a.toList = Url.carried b.toList) ∧
      (first.target = second.target →
        downloadObject transport base token now ⟨bucket, a⟩ =
          downloadObject transport base token now ⟨bucket, b⟩) ∧
      ((∃ front segment, first.segments = front ++ [['o'], segment] ∧
          Percent.decode (Utf8.encode (String.ofList segment)) = Utf8.encode a) ↔
        ∀ c ∈ a.toList, Url.isDropped c = false) ∧
      ((∀ c ∈ a.toList, Url.isDropped c = false) → (∀ c ∈ b.toList, Url.isDropped c = false) →
        a ≠ b → first.target ≠ second.target) := by
  obtain ⟨special, front, query, hurls⟩ := exists_downloadUrl hbase hsegments bucket
  have hfirst := hurls a pathA ha
  have hsecond := hurls b pathB hb
  obtain ⟨hemptyA, hdotA, hdotsA⟩ := LocalName.not_dots_of ha
  obtain ⟨-, hdotB, -⟩ := LocalName.not_dots_of hb
  refine ⟨_, _, hfirst, hsecond, fun hscheme htoken session => ?_, ?_, fun hsame => ?_, ?_,
    fun hkeptA hkeptB hne hsame => hne ?_⟩
  · exact transport_downloadObject hfirst hscheme htoken now session
  · unfold Url.target
    rw [List.append_left_inj, Url.render_below_inj]
  · unfold Url.target at hsame
    rw [List.append_left_inj, Url.render_below_inj] at hsame
    unfold downloadObject
    rw [hfirst, hsecond]
    unfold Url.below
    rw [hsame]
  · have hread := @Url.exists_decode_below_iff special front a.toList hemptyA ⟨hdotA, hdotsA⟩
    rwa [String.ofList_toList] at hread
  · unfold Url.target at hsame
    rw [List.append_left_inj, Url.render_below_inj, Url.carried_of_not_isDropped hkeptA hdotA,
      Url.carried_of_not_isDropped hkeptB hdotB] at hsame
    exact String.toList_inj.mp hsame

/-- A base of the storage API. -/
def storageBase : Url :=
  ⟨"https".toList, some ⟨[], "storage.googleapis.com".toList, none⟩, .segments [[]], none, none⟩

theorem parse_storageBase : Url.parse "https://storage.googleapis.com" = .ok storageBase := by
  apply Result.toOption_eq_some_iff.mp
  decide +kernel

theorem downloadUrl_target_eq_iff_escaped :
    (Url.parse "https://storage.googleapis.com" = .ok storageBase ∧
      storageBase.path = .segments [[]] ∧ LocalName.of "out/a b" = .ok "out/a b" ∧
      LocalName.of "out/a%20b" = .ok "out/a%20b") ∧
    ∃ first second,
      downloadUrl "https://storage.googleapis.com" ⟨"builds", "out/a b"⟩ = .ok first ∧
      downloadUrl "https://storage.googleapis.com" ⟨"builds", "out/a%20b"⟩ = .ok second ∧
      first.target ≠ second.target := by
  have hblank : LocalName.of "out/a b" = .ok "out/a b" := by
    apply Result.toOption_eq_some_iff.mp
    decide +kernel
  have hescape : LocalName.of "out/a%20b" = .ok "out/a%20b" := by
    apply Result.toOption_eq_some_iff.mp
    decide +kernel
  obtain ⟨first, second, hfirst, hsecond, -, -, -, -, hapart⟩ :=
    downloadUrl_target_eq_iff Transport.unreachable none (fun _ : Unit => 0) "builds"
      parse_storageBase rfl hblank hescape
  exact ⟨⟨parse_storageBase, rfl, hblank, hescape⟩, first, second, hfirst, hsecond,
    hapart (by simp [Url.isDropped]) (by simp [Url.isDropped]) (by decide)⟩

/-- Two objects whose names differ by a tab are asked for at one URL. -/
theorem target_shared_where_tab : ¬∀ (base bucket a b pathA pathB : String) (first second : Url),
    LocalName.of a = .ok pathA → LocalName.of b = .ok pathB → a ≠ b →
      downloadUrl base ⟨bucket, a⟩ = .ok first → downloadUrl base ⟨bucket, b⟩ = .ok second →
        first.target ≠ second.target := by
  intro hall
  have htab : LocalName.of "out/a\tb" = .ok "out/a\tb" := by
    apply Result.toOption_eq_some_iff.mp
    decide +kernel
  have hplain : LocalName.of "out/ab" = .ok "out/ab" := by
    apply Result.toOption_eq_some_iff.mp
    decide +kernel
  have hsegments : storageBase.path = .segments [[]] := rfl
  obtain ⟨special, front, query, hurls⟩ := exists_downloadUrl parse_storageBase hsegments "builds"
  refine hall "https://storage.googleapis.com" "builds" "out/a\tb" "out/ab" _ _ _ _ htab hplain
    (by decide) (hurls _ _ htab) (hurls _ _ hplain) ?_
  have hcarried : Url.carried "out/a\tb".toList = Url.carried "out/ab".toList := by decide
  unfold Url.target
  rw [List.append_left_inj, Url.render_below_inj, hcarried]

end Http

end BuildProvenance
