import MonetaryText.Locale.Excerpt.Locales
import MonetaryText.Text.Quoted

/-!
Locale identifiers: language, script, territory and variant, joined by underscores, with an
optional modifier after `@`. Case does not matter, and a character encoding after a point is
ignored.
-/

namespace MonetaryText.Excerpt

/-- Why an identifier names no locale. -/
inductive IdentifierError where
  | empty
  | notLetters (language : String)
  | malformed (id : String)
  | unknown (id : String)
deriving DecidableEq, Repr

def IdentifierError.message : IdentifierError → String
  | empty =>
    "Empty locale identifier value: ''\n\nIf you didn't explicitly pass an empty value to a " ++
      "Babel function, this could be caused by there being no suitable locale environment " ++
      "variables for the API you tried to use."
  | notLetters language => "expected only letters, got " ++ Text.quoted language.toList
  | malformed id => Text.quoted id.toList ++ " is not a valid locale identifier"
  | unknown id => "unknown locale " ++ Text.quoted id.toList

/-- Letters of the Latin alphabet only, and at least one. -/
def isLetters (tag : Text) : Bool := !tag.isEmpty && tag.all Char.isAlpha

def isScript (tag : Text) : Bool := tag.length == 4 && isLetters tag

def isTerritory (tag : Text) : Bool :=
  (tag.length == 2 && isLetters tag) || (tag.length == 3 && tag.all Char.isDigit)

def isVariant (tag : Text) : Bool :=
  (tag.length == 4 && tag.head?.any Char.isDigit) ||
    (5 ≤ tag.length && tag.head?.any Char.isAlpha)

def lower (tag : Text) : Text := tag.map Char.toLower

def upper (tag : Text) : Text := tag.map Char.toUpper

def capitalized (tag : Text) : Text := upper (tag.take 1) ++ lower (tag.drop 1)

/-- Takes the next tag if it is of a kind, and gives it the case of that kind. -/
def takeTag (kind : Text → Bool) (recase : Text → Text) : List Text → List Text × List Text
  | tag :: rest => if kind tag then ([recase tag], rest) else ([], tag :: rest)
  | [] => ([], [])

/-- The tags of an identifier in their usual case. -/
def tags (id : Text) : Except IdentifierError (List Text) :=
  let parts := Text.splitOn '_' id
  let language := lower (parts.headD [])
  if !isLetters language then .error (.notLetters (String.ofList language))
  else
    let (script, rest) := takeTag isScript capitalized (parts.drop 1)
    let (territory, rest) := takeTag isTerritory upper rest
    let (variant, rest) := takeTag isVariant upper rest
    if rest.isEmpty then .ok (language :: script ++ territory ++ variant)
    else .error (.malformed (String.ofList id))

/-- Splits a modifier from an identifier, with its mark; an empty modifier is none. -/
def splitModifier (id : Text) : Text × Text :=
  match id.dropWhile (· != '@') with
  | ['@'] | [] => (id.takeWhile (· != '@'), [])
  | modifier => (id.takeWhile (· != '@'), modifier)

/-- The locale that an identifier names, under its most likely full form. -/
def parse (id : String) : Except IdentifierError Locale :=
  if id.isEmpty then .error .empty
  else do
    let (base, modifier) := splitModifier id.toList
    let tags ← tags (base.takeWhile (· != '.'))
    let name := String.ofList (['_'].intercalate tags)
    let canonical := (likelyForms.lookup name).getD name
    match locales.find? (·.id == canonical) with
    | some locale => return { locale with id := canonical ++ String.ofList modifier }
    | none => throw (.unknown (name ++ String.ofList modifier))

end MonetaryText.Excerpt
