import LessonSite.Page
import LessonSite.Url.Basic

/-!
# Session histories

The addresses shown in a session, each with the route state that was shown
there, so that going back or forward needs no new state.  The entries stand in a
list with a current position.
-/

namespace LessonSite

/-- An address and the state shown at it, if one has been. -/
structure HistoryEntry where
  url : Url
  state : Option RouteState
deriving Repr, DecidableEq, Inhabited

/-- A history; there is always a first entry. -/
structure History where
  first : HistoryEntry
  later : List HistoryEntry
  position : Nat
deriving Repr, DecidableEq

namespace History

/-- The history of a session that begins at an address. -/
def start (url : Url) : History :=
  ⟨⟨url, none⟩, [], 0⟩

/-- All entries, the oldest first. -/
def entries (history : History) : List HistoryEntry :=
  history.first :: history.later

def size (history : History) : Nat :=
  history.entries.length

def current (history : History) : HistoryEntry :=
  history.entries.getD history.position history.first

def replace (history : History) (url : Url) (state : RouteState) : History :=
  match history.position with
  | 0 => { history with first := ⟨url, some state⟩ }
  | position + 1 =>
      { history with later := history.later.set position ⟨url, some state⟩ }

/-- Adds an entry after the current one; the entries that were there are given
up. -/
def push (history : History) (url : Url) (state : RouteState) : History where
  first := history.first
  later := history.later.take history.position ++ [⟨url, some state⟩]
  position := history.position + 1

/-- One step back, except at the first entry. -/
def back? (history : History) : Option History :=
  match history.position with
  | 0 => none
  | position + 1 => some { history with position }

/-- One step forward, except at the last entry. -/
def forward? (history : History) : Option History :=
  if history.position + 1 < history.size then
    some { history with position := history.position + 1 }
  else none

end History

end LessonSite
