import SteadyStore.Event
import SteadyStore.Settings.Value
import SteadyStore.Text.Alphanumeric
import SteadyStore.Text.Bytes
/-!
# Log filters

A filter is a list of directives. Each lets events up to some level through, either all of
them or those whose target starts with a text. The directive with the longest such text
decides about an event, of two with the same text the later one, and an event that no
directive covers is held back (`Filter.lets`).
-/

namespace SteadyStore

/-- Why a text is no filter. -/
inductive FilterFault
  | directive
  | level
deriving DecidableEq, Repr

def FilterFault.message : FilterFault → String
  | .directive => "invalid filter directive"
  | .level =>
    "error parsing level filter: expected one of \"off\", \"error\", \"warn\", \"info\", " ++
      "\"debug\", \"trace\", or a number 0-5"

/-- Lets events up to a rank through. -/
structure Directive where
  /-- The start of the targets that are covered; without one, all are. -/
  target? : Option String
  /-- The rank up to which levels are let through; none has rank zero. -/
  rank : Nat
deriving DecidableEq, Repr

namespace Directive

/-! ## Reading -/

/-- The rank of a directive that lets everything through. -/
def everything : Nat := Level.trace.rank

/-- The ranks by name, in any case. -/
def rankOfName? (name : List Char) : Option Nat :=
  [("off", 0), ("error", 1), ("warn", 2), ("info", 3), ("debug", 4), ("trace", 5)].lookup
    (String.ofList (name.map Char.toLower))

/-- The rank that a text gives: by number or by name. -/
def readRank? (text : List Char) : Option Nat :=
  match ValueReader.count (UInt64.size - 1) text with
  | .ok n => if n ≤ everything then some n else none
  | .error _ => rankOfName? text

/-- What the first character of a directive can be, apart from blanks. -/
def canStart (c : Char) : Bool := c ∈ ['-', ':', '_'] || isAlphanumeric c

/-- Reads a directive without a sign: a rank, or a target with all its events. -/
def ofWord (text : List Char) : Directive :=
  match readRank? text with
  | some rank => ⟨none, rank⟩
  | none => ⟨some (String.ofList text), everything⟩

/-- Reads a directive: a level, a target, or `target=level`. Blanks are left out when the
start and the sign are looked for, but the text is cut as it stands, at the place where the
sign was found without them. -/
def ofChars (text : List Char) : Except FilterFault Directive :=
  let trimmed := trimBlanks text
  let word := trimmed.takeWhile fun c => c ≠ '=' && c ≠ '['
  match trimmed, trimmed.drop word.length with
  | [], _ => .error .directive
  | first :: _, rest =>
    if !canStart first then .error .directive
    else
      match rest with
      | [] => .ok (ofWord text)
      | mark :: _ =>
        if mark = '[' then .error .directive
        else
          let (target, signAndLevel) := cutAtByte (byteCount word) text
          let (_, level) := cutAtByte 1 signAndLevel
          if level.isEmpty then .ok ⟨some (String.ofList target), everything⟩
          else
            match readRank? level with
            | some rank => .ok ⟨some (String.ofList target), rank⟩
            | none => .error .level

/-! ## Deciding -/

/-- The directive speaks about a target. -/
def covers (d : Directive) (target : String) : Bool :=
  match d.target? with
  | none => true
  | some start => start.toList.isPrefixOf target.toList

/-- How much a directive says about the targets it covers. -/
def precision (d : Directive) : Nat :=
  match d.target? with
  | none => 0
  | some start => start.length + 1

end Directive

/-- A filter. -/
structure Filter where
  directives : List Directive
deriving DecidableEq, Repr

namespace Filter

/-- Reads directives between commas; empty ones do not count. -/
def ofText (text : String) : Except FilterFault Filter := do
  let parts := (text.toList.splitOn ',').filter fun part => !part.isEmpty
  return ⟨← parts.mapM Directive.ofChars⟩

/-- The directive that decides about a target: the most precise one, of equals the last. -/
def deciding? (filter : Filter) (target : String) : Option Directive :=
  (filter.directives.filter fun d => d.covers target).foldl
    (fun best d =>
      match best with
      | none => some d
      | some best => if best.precision ≤ d.precision then some d else some best)
    none

/-- The filter lets an event through. -/
def lets (filter : Filter) (event : Event) : Bool :=
  match filter.deciding? event.component.target with
  | none => false
  | some d => event.level.rank ≤ d.rank

end Filter

end SteadyStore
