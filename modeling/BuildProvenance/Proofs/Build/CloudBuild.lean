import BuildProvenance.Proofs.Build.Requests
import BuildProvenance.Proofs.Text.Cut
import Mathlib.Tactic

/-!
# Addresses of builds

A build is addressed by `gcb://`, a project, a slash and an identifier, with any
number of slashes after them.  Those are all addresses, each names one build, and
builds are asked for at addresses of their own.
-/

namespace BuildProvenance

namespace CloudBuild

variable {specUrl : String} {build : CloudBuild}

/-- The build is the one that the URL names. -/
structure IsAt (build : CloudBuild) (specUrl : String) : Prop where
  project : build.project ≠ "" ∧ '/' ∉ build.project.toList
  id : build.id ≠ "" ∧ '/' ∉ build.id.toList
  spelled : ∃ count, specUrl = "gcb://" ++ build.project ++ "/" ++ build.id ++ slashes count

theorem afterScheme?_eq_some_iff {rest : List Char} :
    afterScheme? specUrl = some rest ↔ specUrl.toList = scheme ++ rest := by
  unfold afterScheme?
  constructor
  · intro hafter
    split at hafter
    next hprefix =>
      obtain ⟨text, htext⟩ := List.isPrefixOf_iff_prefix.mp hprefix
      rw [← htext, List.drop_left, Option.some.injEq] at hafter
      rw [← htext, hafter]
    next hother => cases hafter
  · intro hglue
    rw [hglue, if_pos (List.isPrefixOf_iff_prefix.mpr (List.prefix_append scheme rest)),
      List.drop_left]

theorem hasScheme_iff : hasScheme specUrl = true ↔ "gcb://".toList <+: specUrl.toList := by
  unfold hasScheme afterScheme?
  rw [← List.isPrefixOf_iff_prefix]
  split
  next hprefix => exact iff_of_true rfl hprefix
  next hother => exact iff_of_false (by simp) hother

theorem toList_spelled (project id : String) (count : ℕ) :
    ("gcb://" ++ project ++ "/" ++ id ++ slashes count).toList =
      scheme ++ (project.toList ++ '/' :: id.toList ++ List.replicate count '/') := by
  simp [slashes, scheme]

theorem IsAt.getLast?_ne (hat : build.IsAt specUrl) :
    (build.project.toList ++ '/' :: build.id.toList).getLast? ≠ some '/' := by
  have hid : build.id.toList ≠ [] := by simpa using hat.id.1
  rw [List.append_cons, List.getLast?_append_of_ne_nil _ hid]
  exact fun hlast => hat.id.2 (List.mem_of_getLast? hlast)

theorem parse_eq_ok_iff : parse specUrl = .ok build ↔ build.IsAt specUrl := by
  constructor
  · intro hparse
    unfold parse at hparse
    split at hparse
    next hnone => cases hparse
    next rest hafter =>
      split at hparse
      next project id hcut =>
        split at hparse
        next hpieces =>
          obtain ⟨hproject, hid, hslash⟩ := hpieces
          obtain ⟨hglue, hmem⟩ := Text.eq_of_cutFirst?_eq_some hcut
          obtain ⟨-, count, hrest⟩ := Text.trimEnd_eq_iff.mp hglue
          cases hparse
          refine ⟨⟨by simpa using hproject, by simpa using hmem⟩,
            ⟨by simpa using hid, by simpa using hslash⟩, count, ?_⟩
          rw [← String.toList_inj, toList_spelled, afterScheme?_eq_some_iff.mp hafter, hrest]
          simp
        next hother => cases hparse
      next hnone => cases hparse
  · intro hat
    obtain ⟨count, hspelled⟩ := hat.spelled
    -- the identifier ends without a slash, so trimming stops where it ends
    have hafter : afterScheme? specUrl = some (build.project.toList ++ '/' :: build.id.toList ++
        List.replicate count '/') := by
      rw [afterScheme?_eq_some_iff, hspelled, toList_spelled]
    have hpieces : build.project.toList ≠ [] ∧ build.id.toList ≠ [] ∧ '/' ∉ build.id.toList :=
      ⟨by simpa using hat.project.1, by simpa using hat.id.1, hat.id.2⟩
    unfold parse
    simp only [hafter, Text.trimEnd_append_replicate hat.getLast?_ne,
      Text.cutFirst?_append hat.project.2, if_pos hpieces, String.ofList_toList]

theorem IsAt.unique {other : CloudBuild} (hat : build.IsAt specUrl) (hother : other.IsAt specUrl) :
    build = other :=
  Except.ok.inj ((parse_eq_ok_iff.mpr hat).symm.trans (parse_eq_ok_iff.mpr hother))

theorem parse_eq_error (hscheme : hasScheme specUrl = true)
    (hnone : ¬∃ build : CloudBuild, build.IsAt specUrl) :
    parse specUrl = .error (.ofConfig (.invalidUri specUrl .notCloudBuild)) := by
  cases hparse : parse specUrl with
  | ok build => exact absurd ⟨build, parse_eq_ok_iff.mp hparse⟩ hnone
  | error error =>
      obtain ⟨rest, hafter⟩ := Option.isSome_iff_exists.mp hscheme
      unfold parse at hparse
      rw [hafter] at hparse
      simp only at hparse
      split at hparse
      next project id hcut =>
        split at hparse
        next hpieces => cases hparse
        next hother => exact hparse.symm
      next hcut => exact hparse.symm

/-- Builds with proper projects are served at places of their own. -/
theorem endpoint_inj {other : CloudBuild} (hproject : '/' ∉ build.project.toList)
    (hother : '/' ∉ other.project.toList) (apiUrl : String) :
    build.endpoint apiUrl = other.endpoint apiUrl ↔ build = other := by
  have htext : ∀ build : CloudBuild, (build.endpoint apiUrl).toList =
      (Url.trimSlashes apiUrl ++ "/v1/projects/").toList ++
        (build.project.toList ++ '/' :: ("builds/".toList ++ build.id.toList)) := by
    intro build
    simp [endpoint]
  rw [← String.toList_inj, htext build, htext other, List.append_right_inj,
    Text.append_separator_inj hproject hother, List.append_right_inj, String.toList_inj,
    String.toList_inj, CloudBuild.mk.injEq]

end CloudBuild

namespace Builder

variable {config : Config} {specUrl : String}

theorem system_of_ofWorkflow {apiUrl : String} {builder : Builder}
    (hbuilder : ofWorkflow specUrl apiUrl = .ok builder) : builder.system = .workflows := by
  obtain ⟨run, -, hbuilder⟩ := Result.bind_eq_ok_iff.mp hbuilder
  cases hbuilder
  rfl

theorem forUrl_of_isAt {build : CloudBuild} (hat : build.IsAt specUrl) (config : Config) :
    forUrl config specUrl =
      .ok ⟨.cloudBuild, specUrl, build.endpoint config.cloudBuildApiUrl⟩ := by
  have hscheme : CloudBuild.hasScheme specUrl = true := by
    obtain ⟨count, hspelled⟩ := hat.spelled
    rw [CloudBuild.hasScheme_iff, hspelled, CloudBuild.toList_spelled]
    exact List.prefix_append _ _
  unfold forUrl ofCloudBuild
  rw [if_pos hscheme, CloudBuild.parse_eq_ok_iff.mpr hat]
  rfl

theorem exists_isAt_of_forUrl {builder : Builder} (hbuilder : forUrl config specUrl = .ok builder)
    (hsystem : builder.system = .cloudBuild) : ∃ build : CloudBuild, build.IsAt specUrl := by
  unfold forUrl at hbuilder
  split at hbuilder
  next hscheme =>
    obtain ⟨build, hparse, -⟩ := Result.bind_eq_ok_iff.mp hbuilder
    exact ⟨build, CloudBuild.parse_eq_ok_iff.mp hparse⟩
  next hother =>
    split at hbuilder
    next haddress =>
      rw [system_of_ofWorkflow hbuilder] at hsystem
      cases hsystem
    next hunknown => cases hbuilder

/-- The addresses of builds are those that name one.  Each names one build, which is asked for
below the base, and two of them lead to one place only where they name one build.  Whatever else
begins with the scheme is refused. -/
theorem forUrl_cloudBuild_iff (config : Config) (specUrl : String) :
    ((∃ builder, forUrl config specUrl = .ok builder ∧ builder.system = .cloudBuild) ↔
        ∃ build : CloudBuild, build.IsAt specUrl) ∧
      (∀ build other : CloudBuild, build.IsAt specUrl → other.IsAt specUrl → build = other) ∧
      (∀ build : CloudBuild, build.IsAt specUrl → ∃ builder base,
        forUrl config specUrl = .ok builder ∧ builder.system = .cloudBuild ∧
          Url.IsBaseOf base config.cloudBuildApiUrl ∧
          builder.endpoint =
            base ++ "/v1/projects/" ++ build.project ++ "/builds/" ++ build.id ∧
          builder.AsksAt builder.endpoint) ∧
      (∀ (otherUrl : String) (build other : CloudBuild) (builder otherBuilder : Builder),
        build.IsAt specUrl → other.IsAt otherUrl → forUrl config specUrl = .ok builder →
          forUrl config otherUrl = .ok otherBuilder →
            (builder.endpoint = otherBuilder.endpoint ↔ build = other)) ∧
      ("gcb://".toList <+: specUrl.toList → (¬∃ build : CloudBuild, build.IsAt specUrl) →
        forUrl config specUrl = .error (.ofConfig (.invalidUri specUrl .notCloudBuild))) := by
  refine ⟨⟨?_, ?_⟩, fun build other hat hother => hat.unique hother, fun build hat => ?_, ?_, ?_⟩
  · rintro ⟨builder, hbuilder, hsystem⟩
    exact exists_isAt_of_forUrl hbuilder hsystem
  · rintro ⟨build, hat⟩
    exact ⟨_, forUrl_of_isAt hat config, rfl⟩
  · exact ⟨_, _, forUrl_of_isAt hat config, rfl, Url.isBaseOf_trimSlashes _, rfl,
      asksAt_endpoint _⟩
  · intro otherUrl build other builder otherBuilder hat hother hbuilder hotherBuilder
    rw [forUrl_of_isAt hat, Except.ok.injEq] at hbuilder
    rw [forUrl_of_isAt hother, Except.ok.injEq] at hotherBuilder
    rw [← hbuilder, ← hotherBuilder]
    exact CloudBuild.endpoint_inj hat.project.2 hother.project.2 config.cloudBuildApiUrl
  · intro hprefix hnone
    have hscheme := CloudBuild.hasScheme_iff.mpr hprefix
    unfold forUrl ofCloudBuild
    rw [if_pos hscheme, CloudBuild.parse_eq_error hscheme hnone]
    rfl

end Builder

end BuildProvenance
