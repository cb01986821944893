import WinrtLint.Xml.Lexeme

/-!
# Elements and namespaces

An element has a name and attributes.  Short names in front of names stand for
namespaces, which attributes of the elements around them bind.
-/

namespace WinrtLint.Xml

/-- A name in a namespace; the namespace is empty if there is none. -/
structure Name where
  space : String
  name : String
  deriving DecidableEq, Repr

/-- An element with its attributes. -/
structure Element where
  name : Name
  attributes : List (Name × String)
  deriving DecidableEq, Repr

/-- The value of an attribute that is in no namespace. -/
def Element.attribute? (element : Element) (name : String) : Option String :=
  element.attributes.lookup ⟨"", name⟩

/-- An attribute as it is written, with the value that is meant. -/
abbrev WrittenAttribute : Type :=
  WrittenName × String

/-- Namespaces by their short names, innermost first; the empty one is the default. -/
abbrev Bindings : Type :=
  List (String × String)

/-- Bindings with those of an outer element that are not made anew. -/
def Bindings.within (made outer : Bindings) : Bindings :=
  if made.isEmpty then outer
  else made ++ outer.filter fun binding => (made.lookup binding.1).isNone

/-- The namespace of the short name `xml`. -/
def xmlSpace : String :=
  "http://www.w3.org/XML/1998/namespace"

/-- The namespace of the attributes that bind namespaces. -/
def bindingSpace : String :=
  "http://www.w3.org/2000/xmlns/"

/-- Whether a text may name a namespace: it has no closing brace. -/
def isSpaceName (value : String) : Bool :=
  !value.toList.contains '\x7d'

/-- The binding that an attribute makes, if it makes one; `none` inside is a bad one. -/
def bindingOf? (written : WrittenAttribute) :
    Option (Option (String × String)) :=
  let (name, value) := written
  match name.space with
  | none =>
      if name.name = "xmlns" then
        some <|
          if value = xmlSpace || value = bindingSpace || !isSpaceName value then none
          else some ("", value)
      else none
  | some "xmlns" =>
      some <|
        if name.name = "xmlns" || value = "" || value = bindingSpace || !isSpaceName value then
          none
        else if (name.name = "xml") != (value = xmlSpace : Bool) then none
        else some (name.name, value)
  | some _ => none

/-- The namespace of a short name. -/
def spaceOf? (bindings : Bindings) (short : String) : Option String :=
  if short = "xml" then some xmlSpace
  else if short = "xmlns" then none
  else bindings.lookup short

/-- The name that an attribute's written name means. -/
def attributeName? (bindings : Bindings) (name : WrittenName) : Option Name :=
  match name.space with
  | none => some ⟨"", name.name⟩
  | some short => (spaceOf? bindings short).map fun space => ⟨space, name.name⟩

/-- The name that an element's written name means. -/
def elementName? (bindings : Bindings) (name : WrittenName) : Option Name :=
  match name.space with
  | none => some ⟨(bindings.lookup "").getD "", name.name⟩
  | some short => (spaceOf? bindings short).map fun space => ⟨space, name.name⟩

/-- Whether no entry of a list stands in it twice. -/
def allDistinct {Entry : Type} [BEq Entry] : List Entry → Bool
  | [] => true
  | entry :: rest => !rest.contains entry && allDistinct rest

/-- An element from its start tag below given bindings, with the bindings inside it. -/
def element?
    (outer : Bindings)
    (name : WrittenName)
    (attributes : List WrittenAttribute) :
    Option (Element × Bindings) := do
  if !allDistinct (attributes.map (·.1)) then none
  let made ← (attributes.filterMap bindingOf?).mapM id
  let bindings := Bindings.within made outer
  let plain := attributes.filter fun written => (bindingOf? written).isNone
  let named ← plain.mapM fun written =>
    (attributeName? bindings written.1).map fun name => (name, written.2)
  if !allDistinct (named.map (·.1)) then none
  let name ← elementName? bindings name
  return (⟨name, named⟩, bindings)

end WinrtLint.Xml
