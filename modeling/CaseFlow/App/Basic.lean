import CaseFlow.Workflow.Reading

/-!
# Apps

An app owns one workflow document and the cases that follow it.
-/

namespace CaseFlow

/-- An app. -/
structure App where
  /-- The id. -/
  id : String
  /-- The name, not blank. -/
  name : String
  /-- An emoji or a short text. -/
  icon : String := ""
  /-- The name of a color. -/
  themeColor : String := "blue"
  /-- The workflow of its cases. -/
  workflow : Document := {}
  deriving Repr, BEq, Inhabited

namespace App

/-- The name under which apps are refused. -/
def recordName : String := "AppDefinition"

/-- Reads the fields of an app. -/
def readFields (fs : Fields) : Checked App :=
  App.mk <$> fs.require "id" Reader.text
    <*> fs.require "name" (Reader.text.checking (checkNotBlank .emptyAppName))
    <*> fs.optional "icon" Reader.text ""
    <*> fs.optional "theme_color" Reader.text "blue"
    <*> fs.optional "workflow" Document.read {}

/-- Reads an app. -/
def read : Reader App := Reader.record recordName readFields

/-- An app as a value. -/
def toValue (a : App) : Value :=
  .object [("id", .text a.id), ("name", .text a.name), ("icon", .text a.icon),
    ("theme_color", .text a.themeColor), ("workflow", a.workflow.toValue)]

end App

end CaseFlow
