import SteadyStore.Text.Bytes
/-!
# Identifiers of 128 bits

An identifier is 32 hexadecimal digits. It is read bare or in five groups between
hyphens, where the groups may stand in braces or behind `urn:uuid:`, in any case. It is
always written in lower case and in groups.
-/

namespace SteadyStore.Uuid

/-- What can be wrong with a text that should be an identifier. -/
inductive Fault
  | character (c : Char) (index : Nat)
  | length (found : Nat)
  | groupCount (found : Nat)
  | groupLength (group expected found : Nat)
deriving DecidableEq, Repr

def Fault.message : Fault → String
  | .character c index =>
    "invalid character: found `" ++ String.singleton c ++ "` at " ++ toString index
  | .length found => "invalid length: found " ++ toString found
  | .groupCount found => "invalid group count: expected 5, found " ++ toString found
  | .groupLength group expected found =>
    "invalid group length in group " ++ toString group ++ ": expected " ++ toString expected ++
      ", found " ++ toString found

def isHexDigit (c : Char) : Bool :=
  c.isDigit || ('a' ≤ c && c ≤ 'f') || ('A' ≤ c && c ≤ 'F')

/-- The lengths of the groups. -/
def groupLengths : List Nat := [8, 4, 4, 4, 12]

/-- The text between two hyphens, and so on. -/
def groups : List Char → List (List Char)
  | [] => [[]]
  | c :: rest =>
    if c = '-' then [] :: groups rest
    else
      match groups rest with
      | [] => [[c]]
      | group :: more => (c :: group) :: more

/-- Cuts digits into groups of the given lengths. -/
def regroup : List Nat → List Char → List (List Char)
  | [], _ => []
  | length :: lengths, cs => cs.take length :: regroup lengths (cs.drop length)

/-- The written form of 32 digits. -/
def write (digits : List Char) : String :=
  String.ofList (List.intercalate ['-'] (regroup groupLengths (digits.map Char.toLower)))

/-- What stands in front of the groups of a resource name, in any case. -/
def nameMark : List Char := "urn:uuid:".toList

/-- The text inside braces or behind the mark of a resource name, with the number of
characters before it. -/
def enclosed? (cs : List Char) : Option (List Char × Nat) :=
  match cs with
  | '\x7b' :: rest => if rest.getLast? = some '\x7d' then some (rest.dropLast, 1) else none
  | cs =>
    if (cs.take nameMark.length).map Char.toLower = nameMark then
      some (cs.drop nameMark.length, nameMark.length)
    else none

/-- The digits of an identifier in groups. -/
def groupedDigits? (cs : List Char) : Option (List Char) :=
  let parts := groups cs
  if parts.map List.length = groupLengths ∧ parts.all (·.all isHexDigit) then some parts.flatten
  else none

/-- The digits of an identifier in one of its forms. -/
def digits? (cs : List Char) : Option (List Char) :=
  if cs.length = 32 ∧ cs.all isHexDigit then some cs
  else
    match enclosed? cs with
    | some (inner, _) => groupedDigits? inner
    | none => groupedDigits? cs

/-! ## What is wrong with other texts -/

/-- The first character that is neither a digit nor a hyphen, with its place. -/
def firstStray? (place : Nat) : List Char → Option (Char × Nat)
  | [] => none
  | c :: rest =>
    if c = '-' || isHexDigit c then firstStray? (place + 1) rest else some (c, place)

/-- The first of the groups that has the wrong length; the last one if there is none. What
encloses the groups counts with the last one. -/
def faultyGroup (around number : Nat) : List (List Char) → List Nat → Fault
  | [group], [expected] => .groupLength number expected (group.length + around)
  | group :: more, expected :: lengths =>
    if group.length = expected then faultyGroup around (number + 1) more lengths
    else .groupLength number expected group.length
  | _, _ => .groupCount number

/-- What is wrong with a text that should be the groups: a stray character before anything
else, then the number of groups, then their lengths. Places count from `before`, and `around`
is how much encloses the groups. -/
def groupsFault (before around : Nat) (cs : List Char) : Fault :=
  match firstStray? before cs with
  | some (c, place) => .character c place
  | none =>
    if (groups cs).length ≠ groupLengths.length then .groupCount (groups cs).length
    else faultyGroup around 0 (groups cs) groupLengths

/-- The length of the groups with the hyphens between them, in bytes. -/
def groupedLength : Nat := 36

/-- The length of the longest form, in bytes. -/
def longestLength : Nat := 45

/-- What is wrong with a text that is no identifier. One that is too long for every form is
looked at no further. One that is as long as the groups is taken for them, with or without
something around it, and then only the groups count. Of the others, digits in one piece that
nothing encloses have the wrong length. -/
def diagnose (cs : List Char) : Fault :=
  if longestLength < byteCount cs then .length (byteCount cs)
  else if byteCount cs = groupedLength then groupsFault 0 0 cs
  else
    match enclosed? cs with
    | some (inner, before) =>
      if byteCount inner = groupedLength then groupsFault 0 0 inner
      else groupsFault before (byteCount cs - byteCount inner) inner
    | none => if cs.all isHexDigit then .length (byteCount cs) else groupsFault 0 0 cs

/-- The written form of the identifier that a text reads as. -/
def normalize (text : String) : Except String String :=
  match digits? text.toList with
  | some digits => .ok (write digits)
  | none => .error ("UUID parsing failed: " ++ (diagnose text.toList).message)

end SteadyStore.Uuid
