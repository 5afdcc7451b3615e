import BuildProvenance.Http.Challenge
import BuildProvenance.Proofs.SortedMap
import BuildProvenance.Proofs.Text.Trim
import Mathlib.Tactic

/-!
# Challenges that are read back

A challenge is its scheme and then its parameters, each with the value in
quotes.  The scan looks for parameters anywhere.  In a challenge that was
written it finds the written ones and no other: a parameter begins with its
name, a value goes on to the next quote whatever it looks like, and nothing
begins in the commas and spaces between parameters.  A scheme without
parameters is not read, because the blank behind it is trimmed away.
-/

namespace BuildProvenance.Http.Challenge

structure Parameter where
  name : String
  value : String

namespace Parameter

/-- The parameter as it stands in a challenge. -/
def written (parameter : Parameter) : List Char :=
  parameter.name.toList ++ '=' :: '"' :: (parameter.value.toList ++ ['"'])

def entry (parameter : Parameter) : String × String := (parameter.name, parameter.value)

/-- The name is letters and digits of ASCII and underscores, and no quote ends the value early. -/
structure IsProper (parameter : Parameter) : Prop where
  name_ne_empty : parameter.name ≠ ""
  name_chars : ∀ c ∈ parameter.name.toList, c.isAlphanum = true ∨ c = '_'
  quote_not_mem : '"' ∉ parameter.value.toList

end Parameter

/-- The text has the parameters in order, with a comma and any number of spaces between them. -/
inductive Writes : List Parameter → List Char → Prop
  | none : Writes [] []
  | one (parameter : Parameter) : Writes [parameter] parameter.written
  | more (parameter : Parameter) {rest : List Parameter} {text : List Char} (spaces : ℕ)
      (hne : rest ≠ []) (hrest : Writes rest text) :
      Writes (parameter :: rest)
        (parameter.written ++ ',' :: (List.replicate spaces ' ' ++ text))

variable {parameter : Parameter} {parameters : List Parameter} {text before after : List Char}

/-! ## The scan -/

theorem isNameChar_iff {c : Char} : isNameChar c = true ↔ c.isAlphanum = true ∨ c = '_' := by
  simp [isNameChar]

theorem parametersFrom_name {name : List Char} (hname : ∀ c ∈ name, isNameChar c = true)
    (run rest : List Char) :
    parametersFrom (.name run) (name ++ rest) =
      parametersFrom (.name (name.reverse ++ run)) rest := by
  induction name generalizing run with
  | nil => rfl
  | cons c others ih =>
      have hchar := hname c List.mem_cons_self
      rw [List.cons_append, parametersFrom]
      simp only [hchar, if_true]
      rw [ih fun other hother => hname other (List.mem_cons_of_mem _ hother), List.reverse_cons,
        List.append_assoc, List.singleton_append]

theorem parametersFrom_equals {run : List Char} (hrun : run ≠ []) (rest : List Char) :
    parametersFrom (.name run) ('=' :: '"' :: rest) = parametersFrom (.value run []) rest := by
  have hequals : isNameChar '=' = false := by decide
  rw [parametersFrom]
  simp only [hequals, Bool.false_eq_true, if_false, hrun, ne_eq, not_false_eq_true, and_self,
    if_true]
  rw [parametersFrom]
  simp only [if_true]

theorem parametersFrom_value {value : List Char} (hvalue : '"' ∉ value)
    (run done rest : List Char) :
    parametersFrom (.value run done) (value ++ '"' :: rest) =
      (String.ofList run.reverse, String.ofList (done.reverse ++ value)) ::
        parametersFrom (.name []) rest := by
  -- inside a value only a quote is looked for
  induction value generalizing done with
  | nil =>
      rw [List.nil_append, parametersFrom]
      simp only [if_true, List.append_nil]
  | cons c others ih =>
      rw [List.mem_cons, not_or] at hvalue
      rw [List.cons_append, parametersFrom]
      simp only [Ne.symm hvalue.1, if_false]
      rw [ih hvalue.2, List.reverse_cons, List.append_assoc, List.singleton_append]

theorem parametersFrom_other {c : Char} (hname : isNameChar c = false) (hequals : c ≠ '=')
    (rest : List Char) :
    parametersFrom (.name []) (c :: rest) = parametersFrom (.name []) rest := by
  rw [parametersFrom]
  simp only [hname, Bool.false_eq_true, hequals, false_and, if_false]

theorem parametersFrom_gap (spaces : ℕ) (rest : List Char) :
    parametersFrom (.name []) (',' :: (List.replicate spaces ' ' ++ rest)) =
      parametersFrom (.name []) rest := by
  rw [parametersFrom_other (by decide) (by decide)]
  induction spaces with
  | zero => rfl
  | succ spaces ih =>
      rw [List.replicate_succ, List.cons_append, parametersFrom_other (by decide) (by decide), ih]

theorem parametersFrom_written (hproper : parameter.IsProper) (rest : List Char) :
    parametersFrom (.name []) (parameter.written ++ rest) =
      parameter.entry :: parametersFrom (.name []) rest := by
  have hname : ∀ c ∈ parameter.name.toList, isNameChar c = true :=
    fun c hc => isNameChar_iff.mpr (hproper.name_chars c hc)
  have hrun : parameter.name.toList.reverse ++ [] ≠ [] := by
    simpa using hproper.name_ne_empty
  unfold Parameter.written
  rw [List.append_assoc, parametersFrom_name hname, List.cons_append, List.cons_append,
    parametersFrom_equals hrun, List.append_assoc, List.singleton_append,
    parametersFrom_value hproper.quote_not_mem]
  simp only [List.append_nil, List.reverse_reverse, List.reverse_nil, List.nil_append,
    String.ofList_toList]
  rfl

theorem parametersFrom_writes (hwrites : Writes parameters text)
    (hproper : ∀ parameter ∈ parameters, parameter.IsProper) :
    parametersFrom (.name []) text = parameters.map Parameter.entry := by
  induction hwrites with
  | none => rfl
  | one parameter =>
      have hscan := parametersFrom_written (hproper parameter List.mem_cons_self) []
      rwa [List.append_nil] at hscan
  | more parameter spaces hne hrest ih =>
      rw [parametersFrom_written (hproper parameter List.mem_cons_self), parametersFrom_gap,
        ih fun other hother => hproper other (List.mem_cons_of_mem _ hother), List.map_cons]

/-! ## The whole challenge -/

theorem getLast?_written (parameter : Parameter) : parameter.written.getLast? = some '"' := by
  have hquote : parameter.written =
      (parameter.name.toList ++ '=' :: '"' :: parameter.value.toList) ++ ['"'] := by
    simp [Parameter.written]
  rw [hquote, List.getLast?_concat]

theorem Writes.getLast? (hwrites : Writes parameters text) (hne : parameters ≠ []) :
    text.getLast? = some '"' := by
  induction hwrites with
  | none => exact absurd rfl hne
  | one parameter => exact getLast?_written parameter
  | more parameter spaces hrestNe hrest ih =>
      rw [List.getLast?_append, List.getLast?_cons, List.getLast?_append, ih hrestNe]
      rfl

theorem parse?_of_trim {challenge : String}
    (htrim : Text.trim challenge.toList = scheme ++ text) :
    parse? challenge = some (SortedMap.ofList (parametersFrom (.name []) text)) := by
  have hprefix : scheme.isPrefixOf (scheme ++ text) = true :=
    List.isPrefixOf_iff_prefix.mpr (List.prefix_append _ _)
  unfold parse?
  simp only [htrim, hprefix, if_true, List.drop_left]

theorem trim_challenge (hwrites : Writes parameters text) (hne : parameters ≠ [])
    (hbefore : ∀ c ∈ before, Text.isBlank c = true)
    (hafter : ∀ c ∈ after, Text.isBlank c = true) :
    Text.trim (before ++ (scheme ++ text) ++ after) = scheme ++ text := by
  have hhead : (scheme ++ text).head? = some 'B' := rfl
  have hlast : (scheme ++ text).getLast? = some '"' := by
    rw [List.getLast?_append, hwrites.getLast? hne]
    rfl
  refine Text.trim_between hbefore hafter (by simp [← List.head?_eq_none_iff, hhead])
    (fun c hc => ?_) fun c hc => ?_
  · rw [hhead, Option.some.injEq] at hc
    rw [← hc]
    decide
  · rw [hlast, Option.some.injEq] at hc
    rw [← hc]
    decide

theorem get?_ofList_entries_iff (hdistinct : (parameters.map Parameter.name).Nodup)
    {name value : String} :
    (SortedMap.ofList (parameters.map Parameter.entry)).get? name = some value ↔
      ⟨name, value⟩ ∈ parameters := by
  rw [SortedMap.get?_ofList_eq_some_iff]
  · simp only [List.mem_map, Parameter.entry, Prod.mk.injEq]
    constructor
    · rintro ⟨parameter, hmem, rfl, rfl⟩
      exact hmem
    · intro hmem
      exact ⟨_, hmem, rfl, rfl⟩
  · intro a ha b hb hname
    obtain ⟨one, hone, rfl⟩ := List.mem_map.mp ha
    obtain ⟨other, hother, rfl⟩ := List.mem_map.mp hb
    have hsame : one = other := List.inj_on_of_nodup_map hdistinct hone hother hname
    rw [hsame]

/-- Parameters that are written behind the scheme, with blanks around the whole, are found again,
each with its value, and no others with them. -/
theorem written_read_back (hwrites : Writes parameters text) (hne : parameters ≠ [])
    (hproper : ∀ parameter ∈ parameters, parameter.IsProper)
    (hdistinct : (parameters.map Parameter.name).Nodup)
    (hbefore : ∀ c ∈ before, Text.isBlank c = true)
    (hafter : ∀ c ∈ after, Text.isBlank c = true) :
    ∃ found, parse? (String.ofList (before ++ (scheme ++ text) ++ after)) = some found ∧
      ∀ name value, found.get? name = some value ↔ ⟨name, value⟩ ∈ parameters := by
  have htrim := trim_challenge hwrites hne hbefore hafter
  rw [← String.toList_ofList (l := before ++ (scheme ++ text) ++ after)] at htrim
  refine ⟨_, parse?_of_trim htrim, fun name value => ?_⟩
  rw [parametersFrom_writes hwrites hproper]
  exact get?_ofList_entries_iff hdistinct

/-- A value can look like parameters itself. -/
def tricky : List Parameter :=
  [⟨"realm", "https://example.org/token"⟩, ⟨"scope", "a:b, realm=x, c_1=\t"⟩]

theorem written_read_back_tricky : ∃ found,
    parse? " Bearer realm=\"https://example.org/token\",  scope=\"a:b, realm=x, c_1=\t\"\n" =
        some found ∧
      found.get? "realm" = some "https://example.org/token" ∧
      found.get? "scope" = some "a:b, realm=x, c_1=\t" := by
  have hwrites : Writes tricky _ := .more _ 2 (List.cons_ne_nil _ _) (.one _)
  have hchars : ∀ name : String, name.toList.all isNameChar = true →
      ∀ c ∈ name.toList, c.isAlphanum = true ∨ c = '_' :=
    fun name hall c hc => isNameChar_iff.mp (List.all_eq_true.mp hall c hc)
  have hproper : ∀ parameter ∈ tricky, parameter.IsProper := by
    intro parameter hparameter
    simp only [tricky, List.mem_cons, List.not_mem_nil, or_false] at hparameter
    rcases hparameter with rfl | rfl
    · exact ⟨by decide, hchars _ (by decide), by decide⟩
    · exact ⟨by decide, hchars _ (by decide), by decide⟩
  have hbefore : ∀ c ∈ [' '], Text.isBlank c = true := List.forall_mem_singleton.mpr rfl
  have hafter : ∀ c ∈ ['\n'], Text.isBlank c = true := List.forall_mem_singleton.mpr rfl
  obtain ⟨found, hfound, hget⟩ := written_read_back hwrites (List.cons_ne_nil _ _) hproper
    (by decide) hbefore hafter
  refine ⟨found, ?_, (hget _ _).mpr (by simp [tricky]), (hget _ _).mpr (by simp [tricky])⟩
  rw [← hfound]
  congr 1

/-- Behind the scheme alone the blank is trimmed away, so no parameters are not read as none; and
a value without a name is passed over. -/
theorem bare_or_nameless_not_read :
    (Writes [] [] ∧ parse? (String.ofList (scheme ++ [])) = none) ∧
      Writes [⟨"", "v"⟩] (Parameter.written ⟨"", "v"⟩) ∧
        parse? (String.ofList (scheme ++ Parameter.written ⟨"", "v"⟩)) = some .empty := by
  refine ⟨⟨.none, ?_⟩, .one _, ?_⟩
  · decide +kernel
  · decide +kernel

end BuildProvenance.Http.Challenge
