import BuildProvenance.Proofs.Encoding.Percent
import BuildProvenance.Proofs.Text.Cut
import BuildProvenance.Url.Parse

/-!
# Paths as they are written

Without dot segments a path is read as its own encoding.  A dot segment goes
and may take the one before it along, so the path then loses characters that
are not slashes.
-/

namespace BuildProvenance.Url

variable {c : Char} {text : List Char} {segments done : List (List Char)}

/-- The characters of a path that are not escaped. -/
abbrev isPathChar (c : Char) : Bool := Percent.isKept inPathSet c

theorem isPathChar_of_mem_escapeChars : ∀ c ∈ Percent.escapeChars, isPathChar c = true :=
  List.all_eq_true.mp (by decide)

/-- No segment means a step upwards or no step at all. -/
def Straight (segments : List (List Char)) : Prop :=
  ∀ segment ∈ segments, isDot segment = false ∧ isDoubleDot segment = false

/-! ## Paths without dot segments -/

theorem resolveFrom_of_straight (hstraight : Straight segments) (done : List (List Char)) :
    resolveFrom done segments = done.reverse ++ segments.map (Percent.encode inPathSet) := by
  induction segments generalizing done with
  | nil => simp [resolveFrom]
  | cons segment rest ih =>
      obtain ⟨hdot, hdouble⟩ := hstraight segment List.mem_cons_self
      have hrest : Straight rest := fun other hother =>
        hstraight other (List.mem_cons_of_mem _ hother)
      simp only [resolveFrom, hdot, hdouble, Bool.false_eq_true, if_false]
      rw [ih hrest]
      simp

theorem encode_intercalate (segments : List (List Char)) :
    Percent.encode inPathSet (List.intercalate ['/'] segments) =
      List.intercalate ['/'] (segments.map (Percent.encode inPathSet)) := by
  induction segments with
  | nil => rfl
  | cons segment rest ih =>
      cases rest with
      | nil => simp
      | cons next others =>
          have hslash : Percent.encode inPathSet ['/'] = ['/'] := by decide
          rw [List.intercalate_cons_cons, Percent.encode_append, Percent.encode_append, ih, hslash]
          simp only [List.map_cons, List.intercalate_cons_cons]

theorem render_cons (segment : List Char) (rest : List (List Char)) :
    (Hierarchy.segments (segment :: rest)).render =
      '/' :: segment ++ (Hierarchy.segments rest).render := rfl

theorem render_segments (hne : segments ≠ []) :
    (Hierarchy.segments segments).render = '/' :: List.intercalate ['/'] segments := by
  induction segments with
  | nil => exact absurd rfl hne
  | cons segment rest ih =>
      cases rest with
      | nil => simp [Hierarchy.render]
      | cons next others =>
          rw [render_cons, ih (List.cons_ne_nil _ _), List.intercalate_cons_cons]
          simp

theorem render_segmentsOf (hstraight : Straight (Text.parts '/' text)) :
    (Hierarchy.segments (segmentsOf text)).render = '/' :: Percent.encode inPathSet text := by
  have hparts : segmentsOf text =
      (Text.parts '/' text).map (Percent.encode inPathSet) := by
    unfold segmentsOf
    rw [resolveFrom_of_straight hstraight, List.reverse_nil, List.nil_append]
  have hne : (Text.parts '/' text).map (Percent.encode inPathSet) ≠ [] := by
    simpa using Text.parts_ne_nil '/' text
  rw [hparts, render_segments hne, ← encode_intercalate, Text.intercalate_parts]

/-! ## What is left of any path -/

theorem resolveFrom_ne_nil (hne : done ≠ [] ∨ segments ≠ []) :
    resolveFrom done segments ≠ [] := by
  fun_induction resolveFrom done segments with
  | case1 done => simpa using hne
  | case2 => simp
  | case3 done segment rest hdouble hrest ih => exact ih (Or.inr hrest)
  | case4 => simp
  | case5 done segment rest hdouble hdot hrest ih => exact ih (Or.inr hrest)
  | case6 done segment rest hdouble hdot ih => exact ih (Or.inl (List.cons_ne_nil _ _))

theorem segmentsOf_ne_nil (text : List Char) : segmentsOf text ≠ [] :=
  resolveFrom_ne_nil (Or.inr (Text.parts_ne_nil '/' text))

/-- A segment of the result was there before, or is empty, or encodes one that was to be read. -/
theorem mem_resolveFrom {segment : List Char} (hmem : segment ∈ resolveFrom done segments) :
    segment ∈ done ∨ segment = [] ∨ ∃ read ∈ segments, segment = Percent.encode inPathSet read := by
  fun_induction resolveFrom done segments with
  | case1 done => exact Or.inl (List.mem_reverse.mp hmem)
  | case2 done first hdouble =>
      rw [List.mem_reverse, List.mem_cons] at hmem
      rcases hmem with rfl | hmem
      · exact Or.inr (Or.inl rfl)
      · exact Or.inl (List.mem_of_mem_tail hmem)
  | case3 done first rest hdouble hrest ih =>
      rcases ih hmem with hdone | hempty | ⟨read, hread, heq⟩
      · exact Or.inl (List.mem_of_mem_tail hdone)
      · exact Or.inr (Or.inl hempty)
      · exact Or.inr (Or.inr ⟨read, List.mem_cons_of_mem _ hread, heq⟩)
  | case4 done first hdouble hdot =>
      rw [List.mem_reverse, List.mem_cons] at hmem
      exact hmem.symm.imp_right Or.inl
  | case5 done first rest hdouble hdot hrest ih =>
      rcases ih hmem with hdone | hempty | ⟨read, hread, heq⟩
      · exact Or.inl hdone
      · exact Or.inr (Or.inl hempty)
      · exact Or.inr (Or.inr ⟨read, List.mem_cons_of_mem _ hread, heq⟩)
  | case6 done first rest hdouble hdot ih =>
      rcases ih hmem with hdone | hempty | ⟨read, hread, heq⟩
      · rcases List.mem_cons.mp hdone with rfl | hdone
        · exact Or.inr (Or.inr ⟨first, List.mem_cons_self, rfl⟩)
        · exact Or.inl hdone
      · exact Or.inr (Or.inl hempty)
      · exact Or.inr (Or.inr ⟨read, List.mem_cons_of_mem _ hread, heq⟩)

/-- The path has no characters but slashes and those that are not escaped. -/
theorem isPathChar_of_mem_render (hmem : c ∈ (Hierarchy.segments (segmentsOf text)).render) :
    isPathChar c = true := by
  obtain ⟨segment, hsegment, hmem⟩ := List.mem_flatMap.mp hmem
  rcases List.mem_cons.mp hmem with rfl | hmem
  · decide
  rcases mem_resolveFrom hsegment with hnone | rfl | ⟨read, -, rfl⟩
  · cases hnone
  · cases hmem
  · exact Percent.isKept_of_mem_encode isPathChar_of_mem_escapeChars hmem

/-! ## How many characters dot segments take away -/

/-- The characters that are not slashes. -/
def solid (text : List Char) : List Char := text.filter fun c => !(c == '/')

theorem solid_render (hslash : ∀ segment ∈ segments, '/' ∉ segment) :
    solid (Hierarchy.segments segments).render = segments.flatten := by
  induction segments with
  | nil => rfl
  | cons segment rest ih =>
      have hkept : solid segment = segment := by
        refine List.filter_eq_self.mpr fun c hc => ?_
        have hne : c ≠ '/' := fun heq => hslash segment List.mem_cons_self (heq ▸ hc)
        simp [hne]
      have hrest := ih fun other hother => hslash other (List.mem_cons_of_mem _ hother)
      unfold solid at hkept hrest ⊢
      rw [render_cons, List.filter_append, hrest, List.filter_cons_of_neg (by simp), hkept,
        List.flatten_cons]

theorem solid_eq_flatten_parts (text : List Char) :
    solid text = (Text.parts '/' text).flatten := by
  have hslash : ∀ part ∈ Text.parts '/' text, '/' ∉ part :=
    fun part hpart => Text.not_mem_of_mem_parts hpart
  rw [← solid_render hslash, render_segments (Text.parts_ne_nil '/' text), Text.intercalate_parts]
  rfl

theorem solid_render_segmentsOf (text : List Char) :
    solid (Hierarchy.segments (segmentsOf text)).render = (segmentsOf text).flatten := by
  refine solid_render fun segment hsegment hslash => ?_
  rcases mem_resolveFrom hsegment with hnone | rfl | ⟨part, hpart, rfl⟩
  · cases hnone
  · cases hslash
  · exact Text.not_mem_of_mem_parts hpart (Percent.mem_of_mem_encode (by decide) hslash)

/-- The number of characters in some segments. -/
def letters (segments : List (List Char)) : ℕ := segments.flatten.length

theorem letters_cons (segment : List Char) (rest : List (List Char)) :
    letters (segment :: rest) = segment.length + letters rest := by
  simp [letters]

theorem letters_reverse (segments : List (List Char)) :
    letters segments.reverse = letters segments := by
  simp [letters, List.length_flatten, List.sum_reverse]

theorem letters_tail_le (segments : List (List Char)) :
    letters segments.tail ≤ letters segments := by
  cases segments with
  | nil => exact le_rfl
  | cons segment rest =>
      rw [letters_cons]
      exact Nat.le_add_left _ _

def isDotted (segment : List Char) : Bool := isDot segment || isDoubleDot segment

theorem length_pos_of_isDotted {segment : List Char} (hdotted : isDotted segment = true) :
    0 < segment.length := by
  cases segment with
  | nil => exact absurd hdotted (by decide)
  | cons c rest => exact Nat.succ_pos _

theorem straight_iff : Straight segments ↔ segments.countP isDotted = 0 := by
  simp [Straight, isDotted, List.countP_eq_zero]

/-- A path without escapes loses a character at least for each of its dot segments. -/
theorem letters_resolveFrom_le (hplain : ∀ segment ∈ segments, ∀ c ∈ segment, isPathChar c = true)
    (done : List (List Char)) :
    letters (resolveFrom done segments) + segments.countP isDotted ≤
      letters done + letters segments := by
  fun_induction resolveFrom done segments with
  | case1 done => simp [letters_reverse]
  | case2 done first hdouble =>
      have hdotted : isDotted first = true := by simp [isDotted, hdouble]
      have hpos := length_pos_of_isDotted hdotted
      have htail := letters_tail_le done
      simp only [letters_reverse, letters_cons, List.length_nil, List.countP_cons, hdotted, if_true,
        List.countP_nil]
      omega
  | case3 done first rest hdouble hrest ih =>
      have hdotted : isDotted first = true := by simp [isDotted, hdouble]
      have hpos := length_pos_of_isDotted hdotted
      have htail := letters_tail_le done
      have hih := ih fun segment hsegment => hplain segment (List.mem_cons_of_mem _ hsegment)
      simp only [letters_cons, List.countP_cons, hdotted, if_true]
      omega
  | case4 done first hdouble hdot =>
      have hdotted : isDotted first = true := by simp [isDotted, hdot]
      have hpos := length_pos_of_isDotted hdotted
      simp only [letters_reverse, letters_cons, List.length_nil, List.countP_cons, hdotted, if_true,
        List.countP_nil]
      omega
  | case5 done first rest hdouble hdot hrest ih =>
      have hdotted : isDotted first = true := by simp [isDotted, hdot]
      have hpos := length_pos_of_isDotted hdotted
      have hih := ih fun segment hsegment => hplain segment (List.mem_cons_of_mem _ hsegment)
      simp only [letters_cons, List.countP_cons, hdotted, if_true]
      omega
  | case6 done first rest hdouble hdot ih =>
      have hdotted : isDotted first = false := by simp [isDotted, hdouble, hdot]
      have hih := ih fun segment hsegment => hplain segment (List.mem_cons_of_mem _ hsegment)
      rw [Percent.encode_of_isKept (hplain first List.mem_cons_self)] at hih ⊢
      rw [letters_cons] at hih
      simp only [letters_cons, List.countP_cons, hdotted, Bool.false_eq_true, if_false]
      omega

/-- A path keeps its characters exactly when none is escaped and no segment is a dot segment. -/
theorem solid_render_eq_iff (text : List Char) :
    solid (Hierarchy.segments (segmentsOf text)).render = solid text ↔
      (∀ c ∈ text, isPathChar c = true) ∧ Straight (Text.parts '/' text) := by
  constructor
  · intro heq
    have hplain : ∀ c ∈ solid text, isPathChar c = true := by
      intro c hc
      rw [← heq] at hc
      exact isPathChar_of_mem_render (List.mem_of_mem_filter hc)
    have hall : ∀ c ∈ text, isPathChar c = true := by
      intro c hc
      by_cases hslash : c = '/'
      · rw [hslash]
        decide
      · exact hplain c (List.mem_filter.mpr ⟨hc, by simp [hslash]⟩)
    refine ⟨hall, ?_⟩
    have hsame : letters (segmentsOf text) = letters (Text.parts '/' text) := by
      unfold letters
      rw [← solid_render_segmentsOf, heq, solid_eq_flatten_parts]
    rw [solid_eq_flatten_parts] at hplain
    have hle := letters_resolveFrom_le (fun segment hsegment c hc =>
      hplain c (List.mem_flatten_of_mem hsegment hc)) []
    have hnil : letters [] = 0 := rfl
    rw [straight_iff]
    unfold segmentsOf at hsame
    omega
  · rintro ⟨hplain, hstraight⟩
    rw [render_segmentsOf hstraight, Percent.encode_of_isKept hplain]
    rfl

end BuildProvenance.Url
