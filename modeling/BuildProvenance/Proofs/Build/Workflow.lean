import BuildProvenance.Proofs.Build.Requests
import BuildProvenance.Proofs.Url.Domain
import Mathlib.Tactic

/-!
# Pages of workflow runs

A workflow run is addressed by its page.  Where owner and repository are plain
names, the page leads to the run whose number its identifier writes, however many
zeros stand before it and slashes after it, as long as the number has 64 bits.
-/

namespace BuildProvenance

namespace Text

theorem decimalValue_eq (digits : List Char) :
    decimalValue digits = Nat.ofDigitChars 10 digits 0 := by
  unfold decimalValue Nat.ofDigitChars
  simp [Nat.mul_comm]

theorem wordOf?_digits {digits : List Char} (hne : digits ≠ [])
    (hdigits : ∀ c ∈ digits, c.isDigit = true) :
    wordOf? digits =
      if Nat.ofDigitChars 10 digits 0 < 2 ^ 64 then some (Nat.ofDigitChars 10 digits 0)
      else none := by
  have hall : digits.all Char.isDigit = true := List.all_eq_true.mpr hdigits
  have hbound : decimalValue digits ≤ maxWord ↔ Nat.ofDigitChars 10 digits 0 < 2 ^ 64 := by
    rw [decimalValue_eq]
    exact Nat.lt_succ_iff.symm
  unfold wordOf?
  split
  next rest => exact absurd (hdigits '+' List.mem_cons_self) (by decide)
  next hsign =>
    rw [if_neg (by simp [hne, hall])]
    simp only [hbound]
    rw [decimalValue_eq]

/-- The decimal spelling of a number is read back as the number. -/
theorem ofDigitChars_repr (n : ℕ) : Nat.ofDigitChars 10 (Nat.repr n).toList 0 = n := by
  rw [show Nat.repr n = String.ofList (Nat.toDigits 10 n) from rfl, String.toList_ofList]
  exact Nat.ofDigitChars_toDigits (by decide) (by decide)

theorem repr_inj {n m : ℕ} : Nat.repr n = Nat.repr m ↔ n = m := by
  refine ⟨fun heq => ?_, congrArg Nat.repr⟩
  rw [← ofDigitChars_repr n, heq, ofDigitChars_repr]

end Text

namespace WorkflowRun

/-- The page of a run, in the pieces it is written from. -/
structure Page where
  owner : String
  repository : String
  id : String
  /-- The number of slashes at the end. -/
  slashes : ℕ

namespace Page

def address (page : Page) : String :=
  "https://github.com/" ++ page.owner ++ "/" ++ page.repository ++ "/actions/runs/" ++ page.id ++
    BuildProvenance.slashes page.slashes

/-- The number that the identifier writes. -/
def number (page : Page) : ℕ := Nat.ofDigitChars 10 page.id.toList 0

/-- The run that the page shows. -/
def run (page : Page) : WorkflowRun := ⟨page.owner, page.repository, page.number⟩

/-- Owner and repository are plain names, and the identifier consists of digits. -/
structure IsPlain (page : Page) : Prop where
  owner : Url.IsPlainSegment page.owner.toList
  repository : Url.IsPlainSegment page.repository.toList
  id : page.id ≠ "" ∧ ∀ c ∈ page.id.toList, c.isDigit = true

end Page

theorem isPlainSegment_of_isDigit {digits : List Char} (hne : digits ≠ [])
    (hdigits : ∀ c ∈ digits, c.isDigit = true) : Url.IsPlainSegment digits where
  ne_nil := hne
  subset := by
    intro c hc
    obtain ⟨hle, hge⟩ := Char.isDigit_iff_toNat.mp (hdigits c hc)
    have hchar : c = Char.ofNat c.toNat := (Char.ofNat_toNat c).symm
    have hlow : 48 ≤ c.toNat := hle
    have hhigh : c.toNat ≤ 57 := hge
    rw [hchar]
    interval_cases c.toNat <;> decide
  ne_dots := by
    constructor
    all_goals
      rintro rfl
      exact absurd (hdigits '.' List.mem_cons_self) (by decide)

def gitHubDomain : List Char := "github.com".toList

theorem isDomain_gitHub : Url.IsDomain gitHubDomain where
  subset := by decide
  reads := Result.toOption_eq_some_iff.mp (by decide +kernel)

namespace Page

variable {page : Page}

/-- The segments of the path of a page. -/
def segments (page : Page) : List (List Char) :=
  [page.owner.toList, page.repository.toList, "actions".toList, "runs".toList, page.id.toList]

theorem address_eq (page : Page) :
    page.address = String.ofList (Url.ofDomain gitHubDomain
      (List.intercalate ['/'] page.segments ++ List.replicate page.slashes '/')) := by
  have hfront : "https://github.com/".toList =
      Url.httpsScheme ++ ':' :: '/' :: '/' :: (gitHubDomain ++ ['/']) := rfl
  have hmiddle : "/actions/runs/".toList =
      '/' :: "actions".toList ++ '/' :: "runs".toList ++ ['/'] := rfl
  have hslash : "/".toList = ['/'] := rfl
  rw [← String.toList_inj, String.toList_ofList]
  unfold address Url.ofDomain Page.segments BuildProvenance.slashes
  simp only [String.toList_append, String.toList_ofList, hfront, hmiddle, hslash,
    List.intercalate_cons_cons, List.intercalate_singleton, List.append_assoc, List.cons_append,
    List.nil_append]

theorem IsPlain.segments (hplain : page.IsPlain) :
    ∀ segment ∈ page.segments, Url.IsPlainSegment segment := by
  have hid := isPlainSegment_of_isDigit (by simpa using hplain.id.1) hplain.id.2
  have hactions : Url.IsPlainSegment "actions".toList := ⟨by simp, by decide +kernel, by simp⟩
  have hruns : Url.IsPlainSegment "runs".toList := ⟨by simp, by decide +kernel, by simp⟩
  simp only [Page.segments, List.forall_mem_cons, List.not_mem_nil, false_imp_iff, implies_true,
    and_true]
  exact ⟨hplain.owner, hplain.repository, hactions, hruns, hid⟩

theorem parse_address (hplain : page.IsPlain) :
    parse page.address =
      if page.number < 2 ^ 64 then .ok page.run
      else .error (.ofConfig (.invalidUri page.address .runIdNotNumber)) := by
  have hne : page.segments ≠ [] := List.cons_ne_nil _ _
  have hurl := Url.parse_plain isDomain_gitHub hne hplain.segments page.slashes
  have hword := Text.wordOf?_digits (by simpa using hplain.id.1) hplain.id.2
  -- each slash at the end leaves an empty segment, and those are passed over
  have hkept : (page.segments ++ List.replicate page.slashes []).filter (· ≠ []) =
      page.segments := by
    have hfull : page.segments.filter (· ≠ []) = page.segments :=
      List.filter_eq_self.mpr fun segment hsegment =>
        decide_eq_true (hplain.segments segment hsegment).ne_nil
    rw [List.filter_append, hfull, List.filter_replicate_of_neg (by simp), List.append_nil]
  rw [← address_eq] at hurl
  have hscheme : String.ofList Url.httpsScheme = "https" := rfl
  have hhost : String.ofList gitHubDomain = "github.com" := rfl
  have hsegments : page.segments.map String.ofList =
      [page.owner, page.repository, "actions", "runs", page.id] := by
    simp [Page.segments]
  have hnamed : gitHubDomain ≠ [] := by decide
  unfold parse
  simp only [hurl, Url.host?, hnamed, Url.segments, hkept, hsegments, hscheme, hhost, hword,
    if_false, Option.map_some, ne_eq, not_true_eq_false, or_self]
  unfold run number
  by_cases hlt : Nat.ofDigitChars 10 page.id.toList 0 < 2 ^ 64
  · simp only [if_pos hlt]
  · simp only [if_neg hlt]

theorem hasScheme_address (page : Page) : CloudBuild.hasScheme page.address = false := by
  have hfirst : page.address.toList.head? = some 'h' := by
    rw [address_eq, String.toList_ofList]
    rfl
  unfold CloudBuild.hasScheme CloudBuild.afterScheme?
  rw [if_neg]
  · rfl
  · intro hprefix
    obtain ⟨rest, hrest⟩ := List.isPrefixOf_iff_prefix.mp hprefix
    rw [← hrest] at hfirst
    exact absurd hfirst (by simp [CloudBuild.scheme])

end Page

/-- Runs of plain owners and repositories are served at places of their own. -/
theorem endpoint_inj {run other : WorkflowRun}
    (hrun : '/' ∉ run.owner.toList ∧ '/' ∉ run.repository.toList)
    (hother : '/' ∉ other.owner.toList ∧ '/' ∉ other.repository.toList) (apiUrl : String) :
    run.endpoint apiUrl = other.endpoint apiUrl ↔ run = other := by
  have htext : ∀ run : WorkflowRun, (run.endpoint apiUrl).toList =
      (Url.trimSlashes apiUrl ++ "/repos/").toList ++ (run.owner.toList ++
        '/' :: (run.repository.toList ++
          '/' :: ("actions/runs/".toList ++ (Nat.repr run.id).toList))) := by
    intro run
    simp [endpoint]
  rw [← String.toList_inj, htext run, htext other, List.append_right_inj,
    Text.append_separator_inj hrun.1 hother.1, Text.append_separator_inj hrun.2 hother.2,
    List.append_right_inj, String.toList_inj, String.toList_inj, String.toList_inj, Text.repr_inj,
    WorkflowRun.mk.injEq]

end WorkflowRun

namespace Builder

open WorkflowRun

theorem forUrl_address {page : Page} (hplain : page.IsPlain) (config : Config) :
    forUrl config page.address =
      if page.number < 2 ^ 64 then
        .ok ⟨.workflows, page.address, page.run.endpoint config.githubApiUrl⟩
      else .error (.ofConfig (.unknownBuilder page.address)) := by
  have hparse := Page.parse_address hplain
  unfold forUrl isAddress ofWorkflow
  rw [page.hasScheme_address, hparse]
  by_cases hlt : page.number < 2 ^ 64
  · simp only [if_pos hlt]
    rfl
  · simp only [if_neg hlt]
    rfl

theorem forUrl_address_eq_ok_iff {page : Page} (hplain : page.IsPlain) {config : Config}
    {builder : Builder} :
    forUrl config page.address = .ok builder ↔ page.number < 2 ^ 64 ∧
      builder = ⟨.workflows, page.address, page.run.endpoint config.githubApiUrl⟩ := by
  rw [forUrl_address hplain]
  split
  next hlt => rw [Except.ok.injEq, and_iff_right hlt, eq_comm]
  next hge => exact iff_of_false nofun fun hok => hge hok.1

/-- The page of a run with a number of 64 bits leads to that run, below the base, and two such
pages lead to one place only where owner, repository and number are the same.  With any larger
number there is no builder. -/
theorem forUrl_address_iff {page other : Page} (hpage : page.IsPlain) (hother : other.IsPlain)
    (config : Config) :
    (page.number < 2 ^ 64 → ∃ builder base, forUrl config page.address = .ok builder ∧
        builder.system = .workflows ∧ Url.IsBaseOf base config.githubApiUrl ∧
        builder.endpoint = base ++ "/repos/" ++ page.owner ++ "/" ++ page.repository ++
          "/actions/runs/" ++ Nat.repr page.number ∧
        builder.AsksAt builder.endpoint) ∧
      (2 ^ 64 ≤ page.number →
        forUrl config page.address = .error (.ofConfig (.unknownBuilder page.address))) ∧
      ∀ builder otherBuilder, forUrl config page.address = .ok builder →
        forUrl config other.address = .ok otherBuilder →
          (builder.endpoint = otherBuilder.endpoint ↔
            page.owner = other.owner ∧ page.repository = other.repository ∧
              page.number = other.number) := by
  refine ⟨fun hlt => ?_, fun hge => ?_, fun builder otherBuilder hbuilder hotherBuilder => ?_⟩
  · exact ⟨_, _, (forUrl_address_eq_ok_iff hpage).mpr ⟨hlt, rfl⟩, rfl,
      Url.isBaseOf_trimSlashes _, rfl, asksAt_endpoint _⟩
  · rw [forUrl_address hpage, if_neg (Nat.not_lt.mpr hge)]
  · obtain ⟨-, rfl⟩ := (forUrl_address_eq_ok_iff hpage).mp hbuilder
    obtain ⟨-, rfl⟩ := (forUrl_address_eq_ok_iff hother).mp hotherBuilder
    have hslashes : ∀ page : Page, page.IsPlain →
        '/' ∉ page.run.owner.toList ∧ '/' ∉ page.run.repository.toList :=
      fun page hplain => ⟨hplain.owner.slash_not_mem, hplain.repository.slash_not_mem⟩
    have hinj := endpoint_inj (hslashes page hpage) (hslashes other hother) config.githubApiUrl
    rw [hinj]
    unfold Page.run
    rw [WorkflowRun.mk.injEq]

/-- Zeros before the number and slashes after it change nothing. -/
theorem forUrl_address_iff_zeros : ∃ builder otherBuilder,
    forUrl {} "https://github.com/octo/app.js/actions/runs/7" = .ok builder ∧
      forUrl {} "https://github.com/octo/app.js/actions/runs/007//" = .ok otherBuilder ∧
      builder.endpoint = otherBuilder.endpoint := by
  let page : Page := ⟨"octo", "app.js", "7", 0⟩
  let other : Page := ⟨"octo", "app.js", "007", 2⟩
  have howner : Url.IsPlainSegment "octo".toList :=
    ⟨by decide, by decide +kernel, by decide, by decide⟩
  have hrepository : Url.IsPlainSegment "app.js".toList :=
    ⟨by decide, by decide +kernel, by decide, by decide⟩
  have hpage : page.IsPlain :=
    ⟨howner, hrepository, by decide, List.all_eq_true.mp (by decide)⟩
  have hother : other.IsPlain :=
    ⟨howner, hrepository, by decide, List.all_eq_true.mp (by decide)⟩
  have haddress : page.address = "https://github.com/octo/app.js/actions/runs/7" := by
    decide +kernel
  have hotherAddress : other.address = "https://github.com/octo/app.js/actions/runs/007//" := by
    decide +kernel
  have hnumber : page.number = other.number := by decide +kernel
  obtain ⟨hfound, -, hsame⟩ := forUrl_address_iff hpage hother {}
  obtain ⟨hotherFound, -, -⟩ := forUrl_address_iff hother hpage {}
  obtain ⟨builder, -, hbuilder, -⟩ := hfound (by decide +kernel)
  obtain ⟨otherBuilder, -, hotherBuilder, -⟩ := hotherFound (by decide +kernel)
  exact ⟨builder, otherBuilder, haddress ▸ hbuilder, hotherAddress ▸ hotherBuilder,
    (hsame builder otherBuilder hbuilder hotherBuilder).mpr ⟨rfl, rfl, hnumber⟩⟩

end Builder

end BuildProvenance
