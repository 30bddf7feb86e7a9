/-!
# Texts that begin with a stem

Names of structure layouts and of reserved namespaces are recognised by the
text they begin with.
-/

namespace ScriptHost.Text

/-- Whether a text begins with the given stem. -/
def hasStem (stem text : String) : Bool :=
  stem.toList.isPrefixOf text.toList

/-- What follows the stem, if the text begins with it. -/
def afterStem? (stem text : String) : Option String :=
  (stem.toList.isPrefixOf? text.toList).map String.ofList

end ScriptHost.Text
