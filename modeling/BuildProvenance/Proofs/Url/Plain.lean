import BuildProvenance.Proofs.Text.Trim
import BuildProvenance.Proofs.Url.Path

/-!
# Reading a URL with a plain host

Behind a scheme that is not special, a host of lower-case letters, digits and
dashes is read as it is written, and the rest of the URL is its path.
-/

namespace BuildProvenance.Url

variable {c : Char} {text name rest : List Char}

/-- The characters that names of hosts and of buckets are made of. -/
def nameChars : List Char := "abcdefghijklmnopqrstuvwxyz0123456789-".toList

/-- A name that can be a host. -/
structure IsName (name : List Char) : Prop where
  ne_nil : name ≠ []
  subset : ∀ c ∈ name, c ∈ nameChars

theorem IsName.not_mem (hname : IsName name) (hc : c ∉ nameChars) : c ∉ name :=
  fun hmem => hc (hname.subset c hmem)

theorem isForbidden_of_mem_nameChars : ∀ c ∈ nameChars, Host.isForbidden c = false := by
  have hall : nameChars.all (fun c => !Host.isForbidden c) = true := by decide
  simpa using hall

theorem isKept_of_mem_nameChars : ∀ c ∈ nameChars, Percent.isKept isControl c = true :=
  List.all_eq_true.mp (by decide)

/-! ## The authority -/

theorem cutPort_of_not_mem (hcolon : ':' ∉ text) (inside : Bool) :
    cutPort inside text = (text, none) := by
  induction text generalizing inside with
  | nil => rfl
  | cons c rest ih =>
      rw [List.mem_cons, not_or] at hcolon
      rw [cutPort, if_neg fun h => hcolon.1 h.1.symm, ih hcolon.2]

theorem parse_other (hname : IsName name) : Host.parse .other name = .ok name := by
  have hplain : Host.parsePlain name = .ok name := by
    unfold Host.parsePlain
    have hallowed : name.any Host.isForbidden = false := by
      simpa using fun c hc => isForbidden_of_mem_nameChars c (hname.subset c hc)
    rw [hallowed, Percent.encode_of_isKept fun c hc =>
      isKept_of_mem_nameChars c (hname.subset c hc)]
    rfl
  have hbracket : '[' ∉ name := hname.not_mem (by decide)
  cases name with
  | nil => exact absurd rfl hname.ne_nil
  | cons first others =>
      unfold Host.parse
      split
      next hnil => cases hnil
      next hnil => cases hnil
      next inner heq =>
        cases heq
        exact absurd List.mem_cons_self hbracket
      next heq => exact hplain
      next hkind _ _ => cases hkind
      next hkind _ _ => cases hkind

/-- An authority that is nothing but a host. -/
theorem parseAuthority_of_host {kind : SchemeKind} {host : List Char} (hat : '@' ∉ host)
    (hcolon : ':' ∉ host) (hhost : Host.parse kind host = .ok host) (scheme : List Char)
    (more : Bool) :
    parseAuthority kind scheme host more = .ok (⟨[], host, none⟩, []) := by
  have huser : Text.cutLast? '@' host = none := Text.cutLast?_eq_none_iff.mpr hat
  have hport : cutPort false host = (host, none) := cutPort_of_not_mem hcolon false
  unfold parseAuthority
  simp only [huser, hport, hhost]
  simp [encodeUserInfo, Text.cutFirst?, parsePort, portOf?, bind, Except.bind, pure, Except.pure]

theorem parseAuthority_other (hname : IsName name) (scheme : List Char) (more : Bool) :
    parseAuthority .other scheme name more = .ok (⟨[], name, none⟩, []) :=
  parseAuthority_of_host (hname.not_mem (by decide)) (hname.not_mem (by decide))
    (parse_other hname) scheme more

theorem cutAuthority_append (hslash : '/' ∉ name) (rest : List Char) :
    cutAuthority (name ++ '/' :: rest) = (name, '/' :: rest) := by
  have hall : ∀ c ∈ name, decide (c ≠ '/') = true := by
    intro c hc
    simpa using fun heq : c = '/' => hslash (heq ▸ hc)
  unfold cutAuthority
  rw [List.takeWhile_append_of_pos hall, List.dropWhile_append_of_pos hall]
  simp

theorem parseBody_other (hname : IsName name) (scheme path : List Char) (more : Bool) :
    parseBody .other scheme ('/' :: '/' :: (name ++ '/' :: path)) more =
      .ok (some ⟨[], name, none⟩, .segments (segmentsOf path)) := by
  have hcut := cutAuthority_append (hname.not_mem (by decide : '/' ∉ nameChars)) path
  unfold parseBody
  simp only [hcut, parseAuthority_other hname]
  rfl

/-! ## The whole URL -/

/-- A text that no blank, control or separator takes anything away from. -/
structure IsWhole (text : List Char) : Prop where
  kept : ∀ c ∈ text, isDropped c = false
  marks : '?' ∉ text ∧ '#' ∉ text
  last : ∀ c, text.getLast? = some c → 32 < c.toNat

theorem significant_of_isWhole (hwhole : IsWhole text)
    (hhead : ∀ c, text.head? = some c → 32 < c.toNat) : significant text = text := by
  have hend : ∀ c, text.getLast? = some c → decide (c.toNat ≤ 32) = false :=
    fun c hc => decide_eq_false (not_le.mpr (hwhole.last c hc))
  have hstart : ∀ c, text.head? = some c → decide (c.toNat ≤ 32) = false :=
    fun c hc => decide_eq_false (not_le.mpr (hhead c hc))
  unfold significant
  simp only [Text.dropEndWhile_of_getLast? hend, Text.dropWhile_of_head? hstart]
  rw [List.filter_eq_self]
  intro c hc
  simp [hwhole.kept c hc]

theorem cutOff_of_not_mem {separator : Char} (hseparator : separator ∉ text) :
    cutOff separator text = (text, none) := by
  unfold cutOff
  rw [Text.cutFirst?_eq_none_iff.mpr hseparator]

/-- What is left to read of a URL without query and fragment. -/
theorem parse_of_cutScheme? {scheme body : List Char} (hsignificant : significant text = text)
    (hcut : cutScheme? text = some (scheme, body)) (hmarks : '?' ∉ body ∧ '#' ∉ body) :
    parse (String.ofList text) =
      (parseBody (SchemeKind.of scheme) scheme (straighten (SchemeKind.of scheme) body) false).map
        fun found => ⟨scheme, found.1, found.2, none, none⟩ := by
  unfold parse
  simp only [String.toList_ofList, hsignificant, hcut, cutOff_of_not_mem hmarks.1,
    cutOff_of_not_mem hmarks.2]
  cases hbody : parseBody (SchemeKind.of scheme) scheme
      (straighten (SchemeKind.of scheme) body) false with
  | error error => simp [hbody, Except.map]
  | ok found => simp [hbody, Except.map]

theorem isDropped_of_mem_domainChars : ∀ c ∈ '.' :: nameChars, isDropped c = false := by
  have hall : ('.' :: nameChars).all (fun c => !isDropped c) = true := by decide
  simpa using hall

variable {scheme authority path : List Char}

theorem isWhole_of_authority (hscheme : scheme ⊆ nameChars)
    (hauthority : authority ⊆ '.' :: nameChars) (hpath : IsWhole path) :
    IsWhole (scheme ++ ':' :: '/' :: '/' :: (authority ++ '/' :: path)) := by
  constructor
  case kept =>
    intro c hc
    simp only [List.mem_append, List.mem_cons] at hc
    rcases hc with hc | rfl | rfl | rfl | hc | rfl | hc
    any_goals decide
    · exact isDropped_of_mem_domainChars c (List.mem_cons_of_mem _ (hscheme hc))
    · exact isDropped_of_mem_domainChars c (hauthority hc)
    · exact hpath.kept c hc
  case marks =>
    have hquestion : '?' ∉ scheme ∧ '?' ∉ authority :=
      ⟨fun hmem => absurd (hscheme hmem) (by decide),
        fun hmem => absurd (hauthority hmem) (by decide)⟩
    have hsharp : '#' ∉ scheme ∧ '#' ∉ authority :=
      ⟨fun hmem => absurd (hscheme hmem) (by decide),
        fun hmem => absurd (hauthority hmem) (by decide)⟩
    simp [hquestion, hsharp, hpath.marks]
  case last =>
    intro c hc
    have hfront : scheme ++ ':' :: '/' :: '/' :: (authority ++ '/' :: path) =
        (scheme ++ ':' :: '/' :: '/' :: authority ++ ['/']) ++ path := by
      simp
    rw [hfront, List.getLast?_append, List.getLast?_concat, Option.or_eq_some_iff] at hc
    rcases hc with hc | ⟨-, hc⟩
    · exact hpath.last c hc
    · cases hc
      decide

/-- What is left to read of a URL whose scheme and authority are written plainly. -/
theorem parse_of_authority (hscheme : scheme ⊆ nameChars)
    (hcut : ∀ rest, cutScheme? (scheme ++ ':' :: rest) = some (scheme, rest))
    (hauthority : authority ⊆ '.' :: nameChars) (hpath : IsWhole path) :
    parse (String.ofList (scheme ++ ':' :: '/' :: '/' :: (authority ++ '/' :: path))) =
      (parseBody (SchemeKind.of scheme) scheme (straighten (SchemeKind.of scheme)
          ('/' :: '/' :: (authority ++ '/' :: path))) false).map
        fun found => ⟨scheme, found.1, found.2, none, none⟩ := by
  have hwhole := isWhole_of_authority hscheme hauthority hpath
  have hsignificant := significant_of_isWhole hwhole fun c hc => by
    cases scheme with
    | nil =>
        cases hc
        decide
    | cons first others =>
        cases hc
        have hvisible : nameChars.all (fun c => decide (32 < c.toNat)) = true := by decide
        simpa using List.all_eq_true.mp hvisible c (hscheme List.mem_cons_self)
  have hmarks : '?' ∉ '/' :: '/' :: (authority ++ '/' :: path) ∧
      '#' ∉ '/' :: '/' :: (authority ++ '/' :: path) := by
    have hall := hwhole.marks
    simp only [List.mem_append, List.mem_cons, not_or] at hall ⊢
    tauto
  exact parse_of_cutScheme? hsignificant (hcut _) hmarks

/-- The URL of a place in a bucket. -/
def ofBucket (name path : List Char) : List Char :=
  'g' :: 's' :: ':' :: '/' :: '/' :: (name ++ '/' :: path)

theorem parse_ofBucket (hname : IsName name) (hpath : IsWhole path) :
    parse (String.ofList (ofBucket name path)) =
      .ok ⟨['g', 's'], some ⟨[], name, none⟩, .segments (segmentsOf path), none, none⟩ := by
  have hauthority : name ⊆ '.' :: nameChars :=
    fun c hc => List.mem_cons_of_mem _ (hname.subset c hc)
  have hkind : SchemeKind.of ['g', 's'] = .other := by decide
  have hsame : straighten .other ('/' :: '/' :: (name ++ '/' :: path)) =
      '/' :: '/' :: (name ++ '/' :: path) := rfl
  have hcut : ∀ rest, cutScheme? (['g', 's'] ++ ':' :: rest) = some (['g', 's'], rest) :=
    fun _ => rfl
  have hglued : ofBucket name path = ['g', 's'] ++ ':' :: '/' :: '/' :: (name ++ '/' :: path) :=
    rfl
  rw [hglued, parse_of_authority (by decide) hcut hauthority hpath, hkind, hsame,
    parseBody_other hname]
  rfl

end BuildProvenance.Url
