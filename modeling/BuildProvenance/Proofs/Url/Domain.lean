import BuildProvenance.Proofs.Url.Plain

/-!
# Reading a URL with a domain

Behind `https`, a domain that is its own ASCII form is read as it is written.  A
path below it without dot segments and without characters to be escaped is cut at
its slashes and nothing else happens to it.
-/

namespace BuildProvenance.Url

variable {domain path segment : List Char}

/-- A host of lower-case letters, digits, dashes and dots that stands for itself. -/
structure IsDomain (domain : List Char) : Prop where
  subset : domain ⊆ '.' :: nameChars
  reads : Host.parse .special domain = .ok domain

theorem IsDomain.not_mem {c : Char} (hdomain : IsDomain domain) (hc : c ∉ '.' :: nameChars) :
    c ∉ domain :=
  fun hmem => hc (hdomain.subset hmem)

def httpsScheme : List Char := ['h', 't', 't', 'p', 's']

/-- The URL of a place at a domain. -/
def ofDomain (domain path : List Char) : List Char :=
  httpsScheme ++ ':' :: '/' :: '/' :: (domain ++ '/' :: path)

theorem straighten_of_not_mem {kind : SchemeKind} {text : List Char} (htext : backslash ∉ text) :
    straighten kind text = text := by
  have hsame : text.map (fun c => if c = backslash then '/' else c) = text := by
    refine (List.map_congr_left fun c hc => ?_).trans (List.map_id text)
    have hother : c ≠ backslash := fun heq => htext (heq ▸ hc)
    exact if_neg hother
  unfold straighten
  rw [hsame, ite_self]

theorem parseBody_special (hdomain : IsDomain domain) (scheme path : List Char) :
    parseBody .special scheme ('/' :: '/' :: (domain ++ '/' :: path)) false =
      .ok (some ⟨[], domain, none⟩, .segments (segmentsOf path)) := by
  have hslash : '/' ∉ domain := hdomain.not_mem (by decide)
  have hcut := cutAuthority_append hslash path
  have hhead : ∀ c, (domain ++ '/' :: path).head? = some c → (c == '/') = false := by
    intro c hc
    cases hempty : domain with
    | nil =>
        have hreads := hdomain.reads
        rw [hempty] at hreads
        cases hreads
    | cons first rest =>
        rw [hempty, List.cons_append, List.head?_cons, Option.some.injEq] at hc
        rw [hempty, List.mem_cons, not_or, hc] at hslash
        exact beq_eq_false_iff_ne.mpr (Ne.symm hslash.1)
  have htrim : Text.trimStart '/' ('/' :: '/' :: (domain ++ '/' :: path)) =
      domain ++ '/' :: path := by
    unfold Text.trimStart
    rw [List.dropWhile_cons_of_pos rfl, List.dropWhile_cons_of_pos rfl,
      Text.dropWhile_of_head? hhead]
  have hauthority : ∀ more, parseAuthority .special scheme domain more =
      .ok (⟨[], domain, none⟩, []) :=
    parseAuthority_of_host (hdomain.not_mem (by decide)) (hdomain.not_mem (by decide))
      hdomain.reads scheme
  unfold parseBody
  simp only [htrim, hcut, hauthority]
  rfl

theorem parse_ofDomain (hdomain : IsDomain domain) (hpath : IsWhole path)
    (hback : backslash ∉ path) :
    parse (String.ofList (ofDomain domain path)) =
      .ok ⟨httpsScheme, some ⟨[], domain, none⟩, .segments (segmentsOf path), none, none⟩ := by
  have hkind : SchemeKind.of httpsScheme = .special := by decide
  have hplain : backslash ∉ '/' :: '/' :: (domain ++ '/' :: path) := by
    have hslash : backslash ≠ '/' := by decide
    have hdomainBack : backslash ∉ domain := hdomain.not_mem (by decide)
    simp [hslash, hdomainBack, hback]
  have hcut : ∀ rest, cutScheme? (httpsScheme ++ ':' :: rest) = some (httpsScheme, rest) :=
    fun _ => rfl
  unfold ofDomain
  rw [parse_of_authority (by decide) hcut hdomain.subset hpath, hkind,
    straighten_of_not_mem hplain, parseBody_special hdomain]
  rfl

/-! ## Plain paths -/

/-- Letters, digits, dashes, dots, underscores and tildes. -/
def unreservedChars : List Char :=
  "ABCDEFGHIJKLMNOPQRSTUVWXYZabcdefghijklmnopqrstuvwxyz0123456789-._~".toList

/-- A segment of unreserved characters that is no step. -/
structure IsPlainSegment (segment : List Char) : Prop where
  ne_nil : segment ≠ []
  subset : segment ⊆ unreservedChars
  ne_dots : segment ≠ ['.'] ∧ segment ≠ ['.', '.']

theorem toLower_of_mem_unreservedChars :
    ∀ c ∈ unreservedChars, c.toLower ≠ '%' ∧ (c.toLower = '.' → c = '.') := by
  have hall : unreservedChars.all
      (fun c => c.toLower ≠ '%' ∧ (c.toLower = '.' → c = '.')) = true := by decide
  simpa [imp_iff_not_or] using hall

theorem isPathChar_of_mem_unreservedChars : ∀ c ∈ unreservedChars, isPathChar c = true :=
  List.all_eq_true.mp (by decide)

theorem slash_not_mem_unreservedChars : '/' ∉ unreservedChars := by decide

theorem IsPlainSegment.slash_not_mem (hplain : IsPlainSegment segment) : '/' ∉ segment :=
  fun hmem => slash_not_mem_unreservedChars (hplain.subset hmem)

/-- A segment without escapes is a step only when it consists of dots. -/
theorem IsPlainSegment.straight (hplain : IsPlainSegment segment) :
    isDot segment = false ∧ isDoubleDot segment = false := by
  have hescape : '%' ∉ segment.map Char.toLower := by
    intro hmem
    obtain ⟨c, hc, hlower⟩ := List.mem_map.mp hmem
    exact (toLower_of_mem_unreservedChars c (hplain.subset hc)).1 hlower
  have hdots : ∀ count, segment.map Char.toLower = List.replicate count '.' →
      segment = List.replicate count '.' := by
    intro count heq
    obtain ⟨hlength, hall⟩ := List.eq_replicate_iff.mp heq
    refine List.eq_replicate_iff.mpr ⟨by simpa using hlength, fun c hc => ?_⟩
    exact (toLower_of_mem_unreservedChars c (hplain.subset hc)).2
      (hall _ (List.mem_map_of_mem hc))
  unfold isDot isDoubleDot
  simp only [List.mem_cons, List.not_mem_nil, or_false, decide_eq_false_iff_not, not_or]
  refine ⟨⟨fun heq => hplain.ne_dots.1 (hdots 1 heq), fun heq => ?_⟩,
    fun heq => hplain.ne_dots.2 (hdots 2 heq), fun heq => ?_, fun heq => ?_, fun heq => ?_⟩
  all_goals
    rw [heq] at hescape
    exact hescape (by decide)

theorem IsPlainSegment.encode (hplain : IsPlainSegment segment) :
    Percent.encode inPathSet segment = segment :=
  Percent.encode_of_isKept fun c hc => isPathChar_of_mem_unreservedChars c (hplain.subset hc)

variable {segments : List (List Char)}

/-- Plain segments are found again in a path, with an empty one for each slash after them. -/
theorem segmentsOf_plain (hne : segments ≠ [])
    (hplain : ∀ segment ∈ segments, IsPlainSegment segment) (count : ℕ) :
    segmentsOf (List.intercalate ['/'] segments ++ List.replicate count '/') =
      segments ++ List.replicate count [] := by
  have hparts : Text.parts '/' (List.intercalate ['/'] segments ++ List.replicate count '/') =
      segments ++ List.replicate count [] := by
    rw [Text.parts_append_replicate, Text.parts_intercalate hne fun segment hsegment =>
      (hplain segment hsegment).slash_not_mem]
  have hstraight : Straight (segments ++ List.replicate count []) := by
    intro segment hsegment
    rcases List.mem_append.mp hsegment with hsegment | hempty
    · exact (hplain segment hsegment).straight
    · rw [List.eq_of_mem_replicate hempty]
      exact ⟨rfl, rfl⟩
  have hsame : segments.map (Percent.encode inPathSet) = segments := by
    refine (List.map_congr_left fun segment hsegment => ?_).trans (List.map_id segments)
    exact (hplain segment hsegment).encode
  unfold segmentsOf
  rw [hparts, resolveFrom_of_straight hstraight, List.map_append, hsame, List.map_replicate]
  rfl

theorem mem_plain_path {c : Char} {count : ℕ}
    (hplain : ∀ segment ∈ segments, IsPlainSegment segment)
    (hc : c ∈ List.intercalate ['/'] segments ++ List.replicate count '/') :
    c ∈ '/' :: unreservedChars := by
  rcases List.mem_append.mp hc with hc | hc
  · rcases Text.eq_or_mem_of_mem_intercalate hc with rfl | ⟨segment, hsegment, hc⟩
    · exact List.mem_cons_self
    · exact List.mem_cons_of_mem _ ((hplain segment hsegment).subset hc)
  · rw [List.eq_of_mem_replicate hc]
    exact List.mem_cons_self

theorem isWhole_of_subset (hpath : ∀ c ∈ path, c ∈ '/' :: unreservedChars) : IsWhole path := by
  have hchars : ('/' :: unreservedChars).all (fun c => !isDropped c && 32 < c.toNat) = true := by
    decide
  have hall : ∀ c ∈ '/' :: unreservedChars, isDropped c = false ∧ 32 < c.toNat := by
    simpa using hchars
  constructor
  case kept => exact fun c hc => (hall c (hpath c hc)).1
  case marks =>
    exact ⟨fun hmem => absurd (hpath _ hmem) (by decide),
      fun hmem => absurd (hpath _ hmem) (by decide)⟩
  case last => exact fun c hc => (hall c (hpath c (List.mem_of_getLast? hc))).2

/-- A place at a domain, below plain segments and with slashes at its end. -/
theorem parse_plain (hdomain : IsDomain domain) (hne : segments ≠ [])
    (hplain : ∀ segment ∈ segments, IsPlainSegment segment) (count : ℕ) :
    parse (String.ofList (ofDomain domain
        (List.intercalate ['/'] segments ++ List.replicate count '/'))) =
      .ok ⟨httpsScheme, some ⟨[], domain, none⟩, .segments (segments ++ List.replicate count []),
        none, none⟩ := by
  have hpath : ∀ c ∈ List.intercalate ['/'] segments ++ List.replicate count '/',
      c ∈ '/' :: unreservedChars :=
    fun c hc => mem_plain_path hplain hc
  have hback : backslash ∉ List.intercalate ['/'] segments ++ List.replicate count '/' :=
    fun hmem => absurd (hpath _ hmem) (by decide)
  rw [parse_ofDomain hdomain (isWhole_of_subset hpath) hback, segmentsOf_plain hne hplain]

end BuildProvenance.Url
