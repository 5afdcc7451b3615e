import BuildProvenance.FileSystem.Path
import BuildProvenance.Proofs.Text.Cut
import BuildProvenance.Proofs.Text.Utf8
import Mathlib.Tactic

/-!
# Names in paths

A slash is never part of another character, neither in the bytes of a text nor
in what is shown for bytes that are no text.  Names that are put together with
slashes can therefore be told apart again, as far as they are shown differently.
-/

namespace BuildProvenance

namespace Utf8

theorem slash_mem_utf8EncodeChar {c : Char} (hmem : Path.slash ∈ String.utf8EncodeChar c) :
    c = '/' := by
  have hvalue : c.val.toNat = 47 → c = '/' := by
    intro heq
    apply Char.ext
    apply UInt32.toNat_inj.mp
    exact heq
  unfold String.utf8EncodeChar at hmem
  simp only at hmem
  generalize c.val.toNat = v at *
  -- only a character of one byte has a byte below 128
  split_ifs at hmem <;>
    simp only [List.mem_cons, List.not_mem_nil, or_false, Path.slash, ← UInt8.toNat_inj,
      UInt8.toNat_ofNat', UInt8.reduceToNat] at hmem
  · exact hvalue (by omega)
  all_goals omega

theorem slash_not_mem_encode {text : String} (hslash : '/' ∉ text.toList) :
    Path.slash ∉ encode text := by
  rw [encode_eq_flatMap, List.mem_flatMap]
  rintro ⟨c, hc, hmem⟩
  rw [slash_mem_utf8EncodeChar hmem] at hc
  exact hslash hc

theorem encode_intercalate (pieces : List String) :
    encode (String.intercalate "/" pieces) =
      List.intercalate [Path.slash] (pieces.map encode) := by
  rw [encode_eq_flatMap, String.toList_intercalate]
  induction pieces with
  | nil => rfl
  | cons piece others ih =>
      cases others with
      | nil =>
          simp only [List.map_cons, List.map_nil, List.intercalate_singleton]
          exact (encode_eq_flatMap piece).symm
      | cons next rest =>
          simp only [List.map_cons, List.intercalate_cons_cons, List.flatMap_append] at ih ⊢
          rw [ih, ← encode_eq_flatMap]
          rfl

theorem encode_injective {a b : String} (heq : encode a = encode b) : a = b := by
  have hsome := congrArg decode? heq
  simpa using hsome

end Utf8

namespace FileName

/-- What a directory can have as a name. -/
def IsName (name : FileName) : Prop := name ≠ [] ∧ Path.slash ∉ name

/-- A name that is text. -/
def IsText (name : FileName) : Prop :=
  ∃ text : String, name = Utf8.encode text ∧ text ≠ "" ∧ '/' ∉ text.toList

theorem IsText.isName {name : FileName} (htext : name.IsText) : name.IsName := by
  obtain ⟨text, rfl, hne, hslash⟩ := htext
  refine ⟨fun hempty => hne ?_, Utf8.slash_not_mem_encode hslash⟩
  exact Utf8.encode_injective (hempty.trans (by decide +kernel))

theorem IsName.slash_not_mem_display {name : FileName} (hname : name.IsName) :
    '/' ∉ (display name).toList := fun hmem => hname.2 (Utf8.slash_of_mem_decodeLossy hmem)

@[simp] theorem display_encode (text : String) : display (Utf8.encode text) = text :=
  Utf8.decodeLossy_encode text

theorem map_display_encode (texts : List String) :
    (texts.map Utf8.encode).map display = texts := by
  rw [List.map_map]
  exact (List.map_congr_left fun text _ => display_encode text).trans (List.map_id texts)

theorem map_encode_display {names : List FileName}
    (htext : ∀ name ∈ names, ∃ text, name = Utf8.encode text) :
    (names.map display).map Utf8.encode = names := by
  rw [List.map_map]
  apply (List.map_congr_left fun name hname => ?_).trans (List.map_id names)
  obtain ⟨text, rfl⟩ := htext name hname
  simp

end FileName

namespace Path

/-- Names without slashes, put together with slashes, are found again. -/
theorem intercalate_injective {a b : List String} (ha : a ≠ []) (hb : b ≠ [])
    (hslashA : ∀ piece ∈ a, '/' ∉ piece.toList) (hslashB : ∀ piece ∈ b, '/' ∉ piece.toList)
    (heq : String.intercalate "/" a = String.intercalate "/" b) : a = b := by
  have hslash : "/".toList = ['/'] := by simp
  have hlists : a.map String.toList = b.map String.toList := by
    rw [← Text.parts_toList_intercalate hslash ha hslashA, heq,
      Text.parts_toList_intercalate hslash hb hslashB]
  exact List.map_injective_iff.mpr (fun _ _ => String.toList_inj.mp) hlists

theorem intercalate_ne_empty {pieces : List String} (hne : pieces ≠ [])
    (hpieces : ∀ piece ∈ pieces, piece ≠ "") : String.intercalate "/" pieces ≠ "" := by
  obtain ⟨first, rest, rfl⟩ := List.exists_cons_of_ne_nil hne
  intro hempty
  apply hpieces first List.mem_cons_self
  apply String.toList_inj.mp
  have hchars := congrArg String.toList hempty
  rw [String.toList_intercalate, List.map_cons] at hchars
  cases rest with
  | nil => simpa using hchars
  | cons next rest => simp at hchars

end Path

end BuildProvenance
