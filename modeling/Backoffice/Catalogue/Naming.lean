import Backoffice.Json.Shape

/-!
# Names on the wire

Every entry of a catalogue has a name, in ASCII, in which a capital begins each word. It crosses
a process boundary under this name written small: the words are set apart by underscores.

* `wireName`: the name that is written;
* `Catalogue.read`: the entry that a text names.
-/

namespace Backoffice.Catalogue

/-- A letter after the first one of a name, as it is written. -/
def wireLetter (c : Char) : Text :=
  if c.isUpper then ['_', c.toLower] else [c.toLower]

/-- A name written small, with an underscore before every capital but the first letter. -/
def wireName : Text → Text
  | [] => []
  | c :: cs => c.toLower :: cs.flatMap wireLetter

/-- The first entry with a name on the wire, if there is one. -/
def ofWireName? {α : Type} (entries : List α) (name : α → Text) (t : Text) : Option α :=
  entries.find? fun e => wireName (name e) = t

/-- The entry of a catalogue that a text names. -/
def read {α : Type} (entries : List α) (name : α → Text) (t : Text) : Except Json.Fault α :=
  Json.readAll (Json.named (entries.map fun e => wireName (name e)) (ofWireName? entries name)) t

end Backoffice.Catalogue
