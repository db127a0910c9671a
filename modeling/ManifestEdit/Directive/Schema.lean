import ManifestEdit.Document.Reading

/-!
# The directive's schema

Directives and their sections allow no key that they do not declare.
-/

namespace ManifestEdit

namespace Schema

open DeclaredField

/-- Versions by package pattern. -/
def ruleFields : List (DeclaredField × Shape) :=
  [(optional "require", .map .text), (optional "require_dev", .map .text)]

def directiveSection : Schema :=
  ⟨"DirectiveSection", true, ruleFields⟩

def modifySection : Schema :=
  ⟨"ModifySection", true, ruleFields ++ [(optional "config", .map .anything)]⟩

def directive : Schema :=
  ⟨"ModifyDirective", true,
    [(optional "modify", modifySection.shape), (optional "add", directiveSection.shape),
      (optional "remove", directiveSection.shape), (optional "replace", directiveSection.shape)]⟩

end Schema

end ManifestEdit
