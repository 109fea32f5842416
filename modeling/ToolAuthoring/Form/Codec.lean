import ToolAuthoring.Draft.Codec
import ToolAuthoring.Form.Catalog
import ToolAuthoring.Form.NodeForm
import ToolAuthoring.Form.Registry

/-!
# Forms as JSON

How shown forms, the entries of the picker and what an edit makes are written. They are never read
back.
-/

namespace ToolAuthoring

/-- The name of a control. -/
def Control.name : Control → String
  | .text => "text"
  | .url => "url"
  | .password => "password"
  | .textArea => "text_area"
  | .json => "json"
  | .select => "select"

def Choice.json (c : Choice) : Json :=
  .record [("value", .text c.value), ("label", .text c.label)]

/-- An input; a list without choices and a help line that is absent are left out. -/
def ShownInput.json (i : ShownInput) : Json :=
  .record ([("key", .text i.key), ("path", .text i.path), ("label", .text i.label),
      ("control", .text i.control.name)]
    ++ (if i.choices.isEmpty then [] else [("options", .list (i.choices.map Choice.json))])
    ++ [("required", .bool i.required), ("placeholder", .text i.placeholder)]
    ++ (i.help.toList.map fun s => ("help", .text s))
    ++ [("value", .text i.value)])

def ShownSection.json (s : ShownSection) : Json :=
  .record [("title", .optionalText s.title), ("fields", .list (s.inputs.map ShownInput.json))]

def ShownForm.json (form : ShownForm) : Json :=
  .record [("title", .text form.title), ("notice", .optionalText form.notice),
    ("sections", .list (form.sections.map ShownSection.json))]

def FormUpdate.json (u : FormUpdate) : Json :=
  .record [("key", .text u.key), ("value", .text u.value)]

/-- A group is written as its name. -/
def KindGroup.json (g : KindGroup) : Json := .text g.name

def KindOption.json (o : KindOption) : Json :=
  .record [("value", o.value.json), ("label", .text o.label), ("group", o.group.json)]

/-- Each group is written as the pair of its name and its entries. -/
def Catalog.json (groups : List (KindGroup × List KindOption)) : Json :=
  .list (groups.map fun g => .list [g.1.json, .list (g.2.map KindOption.json)])

/-- Texts by key, in the order of their keys. -/
def textsJson (m : KeyMap String String) : Json :=
  .record (m.mapValues .text).entries

end ToolAuthoring
