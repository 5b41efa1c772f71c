import DdeTrayLoader.Tray.Registered
import DdeTrayLoader.Transition.Run
import Mathlib.Logic.Function.Basic

/-!
# Indicators

`DDEindicatorProtocol` keeps one handler for each `*.json` file of the indicator directory.
The constructor of a handler arms a timer for the rest of its initialisation, after a delay
the file names; the timer has no context object, so it does not die with the handler. What
the initialisation asks of other services is left out.
-/

namespace DdeTrayLoader.Tray

open Transition

/-- The indicator protocol, with its handlers by the order of their construction: which of
them are alive, and those whose `initDBus` timer is armed. -/
structure DDEindicatorProtocol where
  registedItem : QHash String ℕ
  alive : ℕ → Bool
  next : ℕ
  delayed : List ℕ

namespace DDEindicatorProtocol

def initial : DDEindicatorProtocol := ⟨∅, fun _ => false, 0, []⟩

/-- `new DDEindicatorProtocolHandler(path)` for a file that has none. -/
def addIndicator (d : DDEindicatorProtocol) (path : String) : DDEindicatorProtocol :=
  if path ∈ d.registedItem then d
  else
    { registedItem := d.registedItem.insert path d.next
      alive := Function.update d.alive d.next true
      next := d.next + 1
      delayed := d.delayed ++ [d.next] }

/-- Drop the handler of a file that is gone. -/
def removeIndicator (indicatorPaths : List String) (d : DDEindicatorProtocol) (path : String) :
    DDEindicatorProtocol :=
  if path ∈ indicatorPaths then d
  else
    match d.registedItem.lookup path with
    | none => d
    | some ref =>
      { d with
        registedItem := d.registedItem.erase path
        alive := Function.update d.alive ref false }

/-- `registedItemChanged`, when the directory holds these files. -/
def registedItemChanged (d : DDEindicatorProtocol) (indicatorPaths : List String)
    (order : HashOrder String) : DDEindicatorProtocol :=
  let d := run addIndicator d indicatorPaths
  run (removeIndicator indicatorPaths) d (order.list d.registedItem.keys)

/-- The `i`-th `initDBus` timer that is armed fires. -/
def initDelayed (d : DDEindicatorProtocol) (i : ℕ) : DDEindicatorProtocol :=
  { d with delayed := d.delayed.eraseIdx i }

end DDEindicatorProtocol

end DdeTrayLoader.Tray
