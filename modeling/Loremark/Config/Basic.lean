import Loremark.Entity.Widget
import Loremark.Spoiler.Gate
import Loremark.Decimal.Read

/-!
# Configuration

The settings that a run can be given: where entities are looked up, what the reader has read and
wants hidden, and how previews are shown. Counts and choices are of types that hold nothing
invalid, so that whatever reaches the gate has been checked.
-/

set_option autoImplicit false

namespace Loremark

namespace Config

/-- Where entities are looked up unless a configuration says otherwise. -/
def defaultUrl : Text := "http://localhost:3001/api".toList

/-- The connection to the store of entities. -/
structure Api where
  baseUrl : Text := defaultUrl
  /-- Seconds until a request is given up; `none` means that it never is. -/
  timeout : Option Float := some 10.0
  /-- Shown with every request unless it counts as false. -/
  token : Value := .null
  deriving Inhabited

/-- What becomes of a spoiler that the reader has not reached. -/
inductive HiddenStyle where
  | blur
  | hide
  deriving DecidableEq, Repr, Inhabited

/-- What becomes of a spoiler without a chapter. -/
inductive Unthresholded where
  | reveal
  | hide
  deriving DecidableEq, Repr, Inhabited

/-- The name of a style. -/
def HiddenStyle.name : HiddenStyle → Text
  | blur => "blur".toList
  | hide => "hide".toList

/-- The name of a policy. -/
def Unthresholded.name : Unthresholded → Text
  | reveal => "reveal".toList
  | hide => "hide".toList

/-- The reader's progress and preferences. -/
structure Spoilers where
  progress : Nat := 0
  showAll : Bool := false
  tolerance : Nat := 0
  hiddenStyle : HiddenStyle := .blur
  unthresholded : Unthresholded := .reveal
  deriving DecidableEq, Repr, Inhabited

/-- What the gate is told. -/
def Spoilers.settings (s : Spoilers) : Spoiler.Settings where
  showAll := s.showAll
  tolerance := s.tolerance
  hiddenStyle := s.hiddenStyle.name
  unthresholded := s.unthresholded.name

/-- The gate of a reader. -/
def Spoilers.gate (s : Spoilers) : Spoiler.Gate := ⟨s.progress, s.settings⟩

/-- How previews are shown. -/
structure Previews where
  descriptionLimit : Nat := 160
  showImages : Bool := true
  compact : Bool := false
  standaloneCards : Bool := false
  deriving DecidableEq, Repr, Inhabited

end Config

/-- A configuration. -/
structure Config where
  api : Config.Api := {}
  spoilers : Config.Spoilers := {}
  previews : Config.Previews := {}
  embedsEnabled : Bool := true
  deriving Inhabited

end Loremark
