import BuildProvenance.Attestation
import BuildProvenance.Proofs.SortedMap
import Mathlib.Tactic

/-!
# Digests of an artifact

Checksums are attested under the names of their algorithms in lower case, so
several keys can come under one name.  Every name that a checksum comes under is
there, with the value of the one whose key is last.  A registry digest comes
under the algorithm that it names, and gives way to a key of this algorithm that
stands behind it.
-/

namespace BuildProvenance

variable {key algorithm value name : String} {checksum : DigestSet}

theorem foldChecksum_of_ne (hkey : key ≠ Artifact.digestName) (value : String) :
    foldChecksum (key, value) = (Text.lowercase key, value) := by
  unfold foldChecksum
  split
  next hcut => exact if_neg hkey
  next hnone => rfl

/-- A registry digest is split at its first colon. -/
theorem foldChecksum_registry (halgorithm : ':' ∉ algorithm.toList) (value : String) :
    foldChecksum (Artifact.digestName, algorithm ++ ":" ++ value) =
      (Text.lowercase algorithm, value) := by
  have hchars : (algorithm ++ ":" ++ value).toList = algorithm.toList ++ ':' :: value.toList := by
    simp
  unfold foldChecksum
  simp only [hchars, Text.cutFirst?_append halgorithm, if_true, String.ofList_toList]

theorem get?_foldChecksums_iff :
    (foldChecksums checksum).get? name = some value ↔
      ∃ entry ∈ checksum.entries, foldChecksum entry = (name, value) ∧
        ∀ later ∈ checksum.entries, entry.1 < later.1 → (foldChecksum later).1 ≠ name :=
  SortedMap.get?_ofList_map_eq_some_iff checksum foldChecksum

theorem exists_get?_foldChecksums_iff :
    (∃ value, (foldChecksums checksum).get? name = some value) ↔
      ∃ entry ∈ checksum.entries, (foldChecksum entry).1 = name := by
  unfold foldChecksums
  rw [SortedMap.exists_get?_ofList_iff, List.map_map]
  exact List.mem_map

theorem foldChecksum_of_digestName_lt {entry : String × String}
    (hlt : Artifact.digestName < entry.1) :
    foldChecksum entry = (Text.lowercase entry.1, entry.2) :=
  foldChecksum_of_ne hlt.ne' entry.2

/-- A registry digest is attested exactly when no key behind it names its algorithm, or the last
one that does has the same value. -/
theorem get?_foldChecksums_registry_iff (halgorithm : ':' ∉ algorithm.toList)
    (hdigest : checksum.get? Artifact.digestName = some (algorithm ++ ":" ++ value)) :
    (foldChecksums checksum).get? (Text.lowercase algorithm) = some value ↔
      ∀ entry ∈ checksum.entries, Artifact.digestName < entry.1 →
        Text.lowercase entry.1 = Text.lowercase algorithm →
          (∀ later ∈ checksum.entries, entry.1 < later.1 →
            Text.lowercase later.1 ≠ Text.lowercase algorithm) → entry.2 = value := by
  have hmem := SortedMap.mem_entries_iff.mpr hdigest
  have hfold := foldChecksum_registry halgorithm value
  constructor
  · intro hkept entry hentry hbehind hname hlast
    have hvalue : (foldChecksums checksum).get? (Text.lowercase algorithm) = some entry.2 := by
      refine get?_foldChecksums_iff.mpr ⟨entry, hentry, ?_, fun later hlater hlt => ?_⟩
      · rw [foldChecksum_of_digestName_lt hbehind, hname]
      · rw [foldChecksum_of_digestName_lt (hbehind.trans hlt)]
        exact hlast later hlater hlt
    rw [hkept] at hvalue
    exact (Option.some.inj hvalue).symm
  · intro hsame
    obtain ⟨found, hfound⟩ := exists_get?_foldChecksums_iff.mpr
      ⟨_, hmem, congrArg Prod.fst hfold⟩
    obtain ⟨entry, hentry, hfolded, hlast⟩ := get?_foldChecksums_iff.mp hfound
    suffices hvalue : found = value by rw [hfound, hvalue]
    -- what stands for the algorithm is not before the registry digest, which comes under it too
    rcases lt_trichotomy entry.1 Artifact.digestName with hbefore | hkey | hbehind
    · exact absurd (congrArg Prod.fst hfold) (hlast _ hmem hbefore)
    · have hown : entry = (Artifact.digestName, algorithm ++ ":" ++ value) :=
        Prod.ext hkey (checksum.eq_of_mem_entries hentry hmem hkey)
      rw [hown, hfold] at hfolded
      exact (congrArg Prod.snd hfolded).symm
    · rw [foldChecksum_of_digestName_lt hbehind, Prod.mk.injEq] at hfolded
      rw [← hfolded.2]
      refine hsame entry hentry hbehind hfolded.1 fun later hlater hlt => ?_
      have hother := hlast later hlater hlt
      rwa [foldChecksum_of_digestName_lt (hbehind.trans hlt)] at hother

/-- A name is attested exactly when a checksum comes under it, with the value of the last that
does.  So a registry digest stands unless the last key behind it that names its algorithm has
another value. -/
theorem foldChecksums_last_stands (checksum : DigestSet) :
    (∀ name, (∃ value, (foldChecksums checksum).get? name = some value) ↔
        ∃ entry ∈ checksum.entries, (foldChecksum entry).1 = name) ∧
      (∀ name value, (foldChecksums checksum).get? name = some value ↔
        ∃ entry ∈ checksum.entries, foldChecksum entry = (name, value) ∧
          ∀ later ∈ checksum.entries, entry.1 < later.1 → (foldChecksum later).1 ≠ name) ∧
      ∀ algorithm value, ':' ∉ algorithm.toList →
        checksum.get? "digest" = some (algorithm ++ ":" ++ value) →
          ((foldChecksums checksum).get? (Text.lowercase algorithm) = some value ↔
            ∀ entry ∈ checksum.entries, "digest" < entry.1 →
              Text.lowercase entry.1 = Text.lowercase algorithm →
                (∀ later ∈ checksum.entries, entry.1 < later.1 →
                  Text.lowercase later.1 ≠ Text.lowercase algorithm) → entry.2 = value) :=
  ⟨fun _ => exists_get?_foldChecksums_iff, fun _ _ => get?_foldChecksums_iff,
    fun _ _ halgorithm hdigest => get?_foldChecksums_registry_iff halgorithm hdigest⟩

def fileAndRegistry : DigestSet :=
  SortedMap.ofList [("SHA256", "aa"), ("digest", "sha256:bb"), ("sha512", "cc")]

theorem foldChecksums_last_stands_registry :
    fileAndRegistry.get? "digest" = some "sha256:bb" ∧
      (foldChecksums fileAndRegistry).get? "sha256" = some "bb" := by
  have hdigest : fileAndRegistry.get? "digest" = some ("sha256" ++ ":" ++ "bb") := by
    decide +kernel
  have hlower : Text.lowercase "sha256" = "sha256" := by decide +kernel
  have hstands := ((foldChecksums_last_stands fileAndRegistry).2.2 "sha256" "bb" (by decide)
    hdigest).mpr (by decide +kernel)
  rw [hlower] at hstands
  exact ⟨hdigest, hstands⟩

/-- A key in lower case takes the place of a registry digest. -/
theorem registry_digest_lost_where_lower : ¬∀ (checksum : DigestSet) (algorithm value : String),
    ':' ∉ algorithm.toList → checksum.get? "digest" = some (algorithm ++ ":" ++ value) →
      (foldChecksums checksum).get? (Text.lowercase algorithm) = some value := by
  intro hall
  have hkept := hall (SortedMap.ofList [("digest", "sha256:bb"), ("sha256", "aa")]) "sha256" "bb"
    (by decide) (by decide +kernel)
  have hlost : (foldChecksums (SortedMap.ofList [("digest", "sha256:bb"), ("sha256", "aa")])).get?
      (Text.lowercase "sha256") = some "aa" := by
    decide +kernel
  rw [hkept] at hlost
  exact absurd hlost (by decide)

end BuildProvenance
