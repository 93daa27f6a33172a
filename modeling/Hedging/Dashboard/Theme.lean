import Hedging.Screen.Style
import Hedging.Dashboard.Lane

/-!
# Colours of the dashboard

Good news is green, warnings are amber and bad news is red; each lane has a colour of its own.
-/

namespace Hedging.Theme

/-- The ground of the heading. -/
def backdrop : Color := ⟨0x18, 0x18, 0x25⟩

def accent : Color := ⟨0xb4, 0xbe, 0xfe⟩

def column : Color := ⟨0x74, 0xc7, 0xec⟩

def lanePrimary : Color := ⟨0x89, 0xb4, 0xfa⟩

def laneBackup : Color := ⟨0xf5, 0xc2, 0xe7⟩

def laneDirect : Color := ⟨0x94, 0xe2, 0xd5⟩

def green : Color := ⟨0xa6, 0xe3, 0xa1⟩

def red : Color := ⟨0xf3, 0x8b, 0xa8⟩

def amber : Color := ⟨0xfa, 0xb3, 0x87⟩

def frame : Color := ⟨0x58, 0x5b, 0x70⟩

def ink : Color := ⟨0xcd, 0xd6, 0xf4⟩

def dim : Color := ⟨0x7f, 0x84, 0x9c⟩

/-- The name of the dashboard. -/
def heading : Style := { Style.strong accent with background := some backdrop }

/-- The names of table columns. -/
def columnName : Style := { Style.strong column with underlined := true }

/-- The titles of panels. -/
def title : Style := .strong ink

/-- Ordinary text. -/
def text : Style := .colored ink

/-- Names and separators. -/
def muted : Style := .colored dim

/-- The borders of panels. -/
def border : Style := .colored frame

/-- Good news. -/
def good : Style := .strong green

/-- Bad news. -/
def bad : Style := .strong red

/-- Things to look at. -/
def notable : Style := .strong amber

/-- The name of a lane. -/
def lane : Lane → Style
  | .primary => .strong lanePrimary
  | .backup => .strong laneBackup
  | .direct => .strong laneDirect

/-- A latency: good below `fast`, notable below `slow`, bad otherwise. -/
def latency (ms fast slow : Float) : Style :=
  if ms < fast then good else if ms < slow then notable else bad

end Hedging.Theme
