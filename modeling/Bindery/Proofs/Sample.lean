import Bindery.Generator

/-!
# A small model

One class of each kind that emission tells apart, to state general results at: a root class with a
virtual method that is inherited, a class with a constructor, signals, virtual methods, a member
template and an operator, and a class of the main module with a slot.
-/

namespace Bindery.Sample

/-- The root class. -/
def object : Class where
  name := "QObject"
  module := "QtCore"
  methods := [
    { name := "timerEvent", fullName := "QObject::timerEvent", dispatch := .impure,
      output := "void", parameters := [⟨"event", "QEvent *"⟩] },
    { name := "destroyed", fullName := "QObject::destroyed", role := .signal }]

/-- A class without methods, which others pass by pointer. -/
def event : Class where
  name := "QEvent"
  module := "QtCore"

/-- A class outside the main module. -/
def timer : Class where
  name := "QTimer"
  module := "QtCore"
  bases := ["QObject"]
  methods := [
    { name := "QTimer", fullName := "QTimer::QTimer", role := .constructor,
      parameters := [⟨"parent", "QObject *"⟩] },
    { name := "timeout", fullName := "QTimer::timeout", role := .signal,
      parameters := [⟨"", "QTimer::QPrivateSignal"⟩] },
    { name := "tick", fullName := "QTimer::tick", dispatch := .impure, output := "void",
      parameters := [⟨"", "int"⟩] },
    { name := "event", fullName := "QTimer::event", dispatch := .impure, output := "bool",
      parameters := [⟨"event", "QEvent *"⟩] },
    { name := "property", fullName := "QTimer::property", output := "T", placeholder := some "T",
      instantiations := [⟨"Int", "int"⟩, ⟨"String", "QString"⟩] },
    { name := "operator==", fullName := "QTimer::operator==", output := "bool" }]
  enums := [⟨"TimerType", [⟨"Coarse", "Precise + 1"⟩]⟩]

/-- A class of the main module. -/
def counter : Class where
  name := "Counter"
  module := "main"
  bases := ["QObject"]
  methods := [
    { name := "changed", fullName := "Counter::changed", role := .signal,
      parameters := [⟨"value", "int"⟩] },
    { name := "label", fullName := "Counter::label", role := .slot, output := "QString" }]

/-- The four classes under the default configuration. -/
def context : Context where
  registry := { classes := [object, event, timer, counter], distinct := by decide }
  config := {}

end Bindery.Sample
