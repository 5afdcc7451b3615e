import BuildProvenance.Text.Cut

/-!
# Locators of a source

A locator names a repository, and after the last `@` perhaps a revision of
it.  What follows the `@` only counts as a revision if it is not empty and
has no slash, so the user name in `git+ssh://git@host/repo` stays part of the
repository.
-/

namespace BuildProvenance

structure Locator where
  repository : String
  revision : Option String
  deriving DecidableEq

namespace Locator

/-- Splits a locator into repository and revision. -/
def parse (text : String) : Locator :=
  match Text.cutLast? '@' text.toList with
  | some (repository, revision) =>
    if repository ≠ [] ∧ revision ≠ [] ∧ '/' ∉ revision then
      ⟨String.ofList repository, some (String.ofList revision)⟩
    else ⟨text, none⟩
  | none => ⟨text, none⟩

/-- The locator as it is written. -/
def render (locator : Locator) : String :=
  match locator.revision with
  | some revision => locator.repository ++ "@" ++ revision
  | none => locator.repository

end Locator

end BuildProvenance
