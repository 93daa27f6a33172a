import Hedging.Screen.Charts
import Hedging.Screen.Panel
import Hedging.Dashboard.Statistics
import Hedging.Dashboard.Theme

/-!
# The panels of the dashboard

What the dashboard shows, panel by panel, on a screen of 200 columns and 50 rows. The upper part has
the session's figures; below are the lanes on the left and, on the right, configuration, last lookup,
progress of a running batch and the state of hedging; the last rows list the keys.
-/

namespace Hedging.Dashboard

/-- One line of a panel. -/
abbrev Line := List Styled

/-- The dashboard's screen. -/
def screenWidth : Nat := 200

def screenHeight : Nat := 50

/-- Columns of the left half. -/
def leftWidth : Nat := screenWidth * 55 / 100

/-- Columns of the right half. -/
def rightWidth : Nat := screenWidth - leftWidth

/-- Time in its two greatest units. -/
def uptimeText (seconds : Nat) : String :=
  if seconds < 60 then s!"{seconds}s"
  else if seconds < 3600 then s!"{seconds / 60}m {seconds % 60}s"
  else s!"{seconds / 3600}h {seconds % 3600 / 60}m"

/-- How slow a lookup of the tail is, in milliseconds. -/
def tailMillis (d : Dashboard) : Float := Float.ofNat d.simulated.tailMillis

/-- A latency is good below a quarter of the tail and bad from the tail on. -/
def latencyStyle (d : Dashboard) (ms : Float) : Style :=
  Theme.latency ms (d.tailMillis / 4) d.tailMillis

/-- A count that is better zero. -/
def countStyle (n : Nat) (alarm calm : Style) : Style := if 0 < n then alarm else calm

/-- Between two figures. -/
def divider : Styled := ⟨"│ ", Theme.muted⟩

/-- Between two figures that stand further apart. -/
def wideDivider : Styled := ⟨"  │  ", Theme.muted⟩

/-- The name in front of a value. -/
def label (name : String) : Styled := ⟨name, Theme.muted⟩

/-- A rate of success. -/
def rateStyle (percent : Float) : Style :=
  if 95 < percent then Theme.good else if 80 < percent then Theme.notable else Theme.bad

/-- The figures of the session. -/
def sessionLines (d : Dashboard) : List Line :=
  let whole := Decimal.fixed 0
  let p50 := (d.latencyPercentile 50).toFloat
  let p99 := (d.latencyPercentile 99).toFloat
  let rate := d.successRate
  [[label "Session: ", ⟨s!"Uptime: {uptimeText d.uptime} ", Theme.text⟩, divider,
      ⟨s!"Lookups: {d.calls} ", Theme.text⟩, divider,
      ⟨s!"Success: {d.successes} ", Theme.good⟩, divider,
      ⟨s!"Errors: {d.errors}", countStyle d.errors Theme.bad Theme.text⟩],
    [label "Latency: ", ⟨s!"avg {whole d.averageLatency}ms ", Theme.text⟩, divider,
      ⟨s!"p50 {whole p50}ms ", d.latencyStyle p50⟩, divider,
      ⟨s!"p99 {whole p99}ms ", d.latencyStyle p99⟩, divider,
      ⟨Decimal.fixed 1 d.callsPerSecond ++ " lookups/s ", Theme.notable⟩, divider,
      ⟨String.ofList (Chart.bar (rate / 100) 15), rateStyle rate⟩,
      ⟨" " ++ Decimal.fixed 1 rate ++ "%", Theme.text⟩]]

/-- The columns of the table of lanes, with their widths. -/
def laneColumns : List (String × Nat) :=
  [("Lane", 9), ("Wins", 7), ("Avg ms", 8), ("Errors", 7), ("Latency Trend", 14), ("Share", 53)]

/-- A row of the table: texts in columns, two blanks between them. -/
def tableRow (texts : List Styled) : List Cell :=
  (List.zipWith (fun (t : Styled) (c : String × Nat) =>
    Cell.fit c.2 (.blankOf t.style) (Cell.ofStyled t)) texts laneColumns).intersperse
    [.blank, .blank] |>.flatten

/-- Wins of all lanes. -/
def totalWins (d : Dashboard) : Nat :=
  Lane.all.foldl (fun total lane => total + ((d.lanes.get lane).getD .zero).wins) 0

/-- The row of one lane. -/
def laneRow (d : Dashboard) (lane : Lane) : List Cell :=
  let t := (d.lanes.get lane).getD .zero
  let total := d.totalWins
  let share := if 0 < total then Float.ofNat t.wins / Float.ofNat total else 0
  let plain (text : String) : Styled := ⟨text, .plain⟩
  tableRow [⟨lane.name, Theme.lane lane⟩, plain (toString t.wins),
    plain (Decimal.fixed 1 t.average), ⟨toString t.errors, countStyle t.errors Theme.bad .plain⟩,
    ⟨String.ofList (Chart.sparkline (d.history.get lane)), d.latencyStyle t.average⟩,
    plain (String.ofList (Chart.bar share 10) ++ " " ++ Decimal.fixed 0 (share * 100) ++ "%")]

/-- The table of lanes. -/
def laneRows (d : Dashboard) : List (List Cell) :=
  tableRow (laneColumns.map fun c => ⟨c.1, Theme.columnName⟩) :: [] :: Lane.all.map d.laneRow

/-- How lookups are sent. -/
def configLines (d : Dashboard) : List Line :=
  let batch : Styled :=
    if d.batch.on then ⟨s!"ON ({d.batch.done}/{d.batch.count})", Theme.good⟩
    else ⟨s!"OFF (count: {d.batch.count})", Theme.muted⟩
  let modeStyle :=
    match d.mode with
    | .hedged => Theme.notable
    | .direct => Theme.good
  [[label "Mode    : ", ⟨d.mode.label, modeStyle⟩],
    [label "Host    : ", ⟨d.host, Theme.text⟩],
    [label "Tail    : ",
      ⟨s!"{d.simulated.tailPercent}% of lookups +{d.simulated.tailMillis}ms", Theme.text⟩],
    [label "Batch   : ", batch]]

/-- The last result. -/
def lastLines (d : Dashboard) : List Line :=
  let nothing : Styled := ⟨"-", Theme.muted⟩
  let winner := d.lastLane.elim nothing fun lane => ⟨lane.name, Theme.lane lane⟩
  let latency := d.lastLatency.elim nothing fun latency =>
    ⟨Decimal.fixed 1 latency.toFloat ++ " ms", d.latencyStyle latency.toFloat⟩
  [[label "Result  : ", ⟨d.message, Theme.text⟩], [label "Winner  : ", winner],
    [label "Latency : ", latency]]

/-- The progress of a batch. -/
def batchRow (d : Dashboard) : List Cell :=
  Chart.gauge (rightWidth - 2) (d.batch.percent) s!"{d.batch.done}/{d.batch.count}".toList
    Theme.good

/-- The budget: how full it is, and whether a backup can be paid for. -/
def tokensText (d : Dashboard) : Option UInt32 → Styled
  | none => ⟨"unmetered", Theme.muted⟩
  | some tokens =>
    let cap := d.config.maxTokens
    let share := Float.ofNat tokens.toNat / Float.ofNat (max cap.toNat 1)
    ⟨String.ofList (Chart.bar share 10) ++ s!" {tokens.toNat}/{cap.toNat}",
      if d.config.withdraw.toNat ≤ tokens.toNat then Theme.good else Theme.bad⟩

/-- The state of hedging, as it was last looked at. -/
def hedgeLines (d : Dashboard) : List Line :=
  let c := d.hedge.counters
  let delay : Styled :=
    match d.hedge.currentDelay with
    | some delay => ⟨s!"{delay.millis}ms", Theme.notable⟩
    | none => ⟨"unbounded (warming up)", Theme.muted⟩
  [[label "Delay    : ", delay], [label "Budget   : ", d.tokensText d.hedge.tokens],
    [label "Backups  : ", ⟨s!"{c.backupsIssued} issued", Theme.text⟩, wideDivider,
      ⟨s!"{c.backupsDenied} denied", countStyle c.backupsDenied Theme.notable Theme.text⟩,
      wideDivider, ⟨Decimal.fixed 1 d.hedgeRate ++ "% of requests", Theme.text⟩],
    [label "Winners  : ", ⟨s!"primary {c.primaryWins}", Theme.lane .primary⟩, wideDivider,
      ⟨s!"backup {c.backupWins}", Theme.lane .backup⟩],
    [label "Estimator: ",
      ⟨"k=" ++ Decimal.fixed 1 d.config.multiplier ++
        s!", window {d.config.windowCapacity.toNat}, {c.samples} samples", Theme.text⟩]]

/-- The keys and what they do. -/
def keyLines : List Line :=
  let key (name : String) : Styled := ⟨name, Theme.notable⟩
  [[label "  ", key "r", label " Run lookup  │  ", key "b", label " Toggle batch  │  ", key ",/.",
      label " Batch count  │  ", key "Tab", label " Hedged/Direct"],
    [label "  ", key "+/-", label " Tail share  │  ", key "s", label " Reset stats   │  ", key "q",
      label " Quit"]]

/-- A panel with a title. -/
def panel (name : String) (frame : Frame) (rows : List (List Cell)) : Panel :=
  ⟨⟨name, Theme.title⟩, Theme.border, frame, rows⟩

/-- A panel of lines. -/
def textPanel (name : String) (frame : Frame) (lines : List Line) : Panel :=
  panel name frame (lines.map Cell.row)

/-- The name of the dashboard, in a box of its own. -/
def headingPanel : Panel :=
  ⟨⟨" Hedged Resolver :: Tail Latency Dashboard ", Theme.heading⟩, Theme.border,
    ⟨0, 0, screenWidth, 3⟩, []⟩

def sessionPanel (d : Dashboard) : Panel :=
  textPanel " Session Analytics " ⟨0, 3, screenWidth, 4⟩ d.sessionLines

def lanePanel (d : Dashboard) : Panel :=
  panel " Winning Lanes " ⟨0, 7, leftWidth, 38⟩ d.laneRows

def configPanel (d : Dashboard) : Panel :=
  textPanel " Configuration " ⟨leftWidth, 7, rightWidth, 6⟩ d.configLines

/-- The last lookup leaves room for the progress of a batch. -/
def lastPanel (d : Dashboard) : Panel :=
  textPanel " Last Lookup " ⟨leftWidth, 13, rightWidth, if d.batch.on then 21 else 24⟩ d.lastLines

/-- The progress of a batch is shown while one is running. -/
def batchPanel? (d : Dashboard) : Option Panel :=
  if d.batch.on then some (panel " Batch Progress " ⟨leftWidth, 34, rightWidth, 3⟩ [d.batchRow])
  else none

def hedgePanel (d : Dashboard) : Panel :=
  textPanel " Hedge State " ⟨leftWidth, 37, rightWidth, 8⟩ d.hedgeLines

def keyPanel : Panel := textPanel " Keybinds " ⟨0, 45, screenWidth, 5⟩ keyLines

/-- All panels. -/
def panels (d : Dashboard) : List Panel :=
  [headingPanel, d.sessionPanel, d.lanePanel, d.configPanel, d.lastPanel] ++ d.batchPanel?.toList ++
    [d.hedgePanel, keyPanel]

/-- The whole screen as text, line by line. -/
def screen (d : Dashboard) : List String :=
  (screenRows screenWidth screenHeight d.panels).map rowText

end Hedging.Dashboard
