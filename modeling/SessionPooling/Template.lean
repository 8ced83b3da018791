import SessionPooling.Labels

/-! What a pool asks for when it creates a session. -/
namespace SessionPooling

structure Template where
  labels : Labels
  role : Option String
deriving DecidableEq

namespace Template

def empty : Template := ⟨.empty, none⟩

def withLabel (template : Template) (key value : String) : Template :=
  { template with labels := template.labels.insert key value }

def withRole (template : Template) (role : String) : Template :=
  { template with role := some role }

/-- The template with `fallback` as its role where it names none. -/
def orRole (template : Template) (fallback : Option String) : Template :=
  { template with role := template.role <|> fallback }

end Template
end SessionPooling
