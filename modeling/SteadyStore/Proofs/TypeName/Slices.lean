import SteadyStore.Proofs.TypeName.Cuts
import SteadyStore.Text.Bytes
/-!
# The parts of a text by their places in bytes

The parts of a text are found in one scan that keeps the place of the next character in bytes, the
bracket depth, and where the part began that it is in (`Scan.step`). Every place it notes stands between
two characters, however many bytes they take. So the slices of the text at these places exist, and they
are its parts (`mapM_sliceAt?_places`). The invariant of the scan is `Scan.Tracks`.
-/

namespace SteadyStore.TypeName

/-! ## Slices -/

/-- Cuts a text after so many bytes, if no character lies across that place. -/
def splitAtByte? (bytes : Nat) (cs : List Char) : Option (List Char × List Char) :=
  let (front, back) := cutAtByte bytes cs
  if byteCount front = bytes then some (front, back) else none

/-- The text between two places, if both are in order and stand between characters. -/
def sliceAt? (cs : List Char) : Nat × Nat → Option (List Char)
  | (start, stop) =>
    if start ≤ stop then do
      let (_, back) ← splitAtByte? start cs
      let (part, _) ← splitAtByte? (stop - start) back
      return part
    else none

theorem byteCount_append (cs ds : List Char) :
    byteCount (cs ++ ds) = byteCount cs + byteCount ds := by
  induction cs with
  | nil => exact (Nat.zero_add _).symm
  | cons c cs ih => rw [List.cons_append, byteCount_cons, byteCount_cons, ih, Nat.add_assoc]

theorem cutAtByte_byteCount (front back : List Char) :
    cutAtByte (byteCount front) (front ++ back) = (front, back) := by
  induction front with
  | nil =>
    cases back with
    | nil => rfl
    | cons c back => rw [byteCount_nil, List.nil_append, cutAtByte, if_pos c.utf8Size_pos]
  | cons c front ih =>
    rw [byteCount_cons, List.cons_append, cutAtByte, if_neg (by omega), Nat.add_sub_cancel_left, ih]

theorem splitAtByte?_byteCount (front back : List Char) :
    splitAtByte? (byteCount front) (front ++ back) = some (front, back) := by
  rw [splitAtByte?, cutAtByte_byteCount]
  exact if_pos rfl

theorem sliceAt?_append (done part rest : List Char) :
    sliceAt? (done ++ part ++ rest) (byteCount done, byteCount (done ++ part)) = some part := by
  have stop : byteCount (done ++ part) = byteCount done + byteCount part := byteCount_append done part
  rw [sliceAt?, stop, if_pos (Nat.le_add_right _ _), List.append_assoc, splitAtByte?_byteCount,
    Nat.add_sub_cancel_left]
  change (do let (part, _) ← splitAtByte? (byteCount part) (part ++ rest); return part) = some part
  rw [splitAtByte?_byteCount]
  rfl

/-! ## The scan -/

/-- How far a text has been scanned. -/
structure Scan where
  /-- Where the next character begins. -/
  place : Nat
  depth : Nat
  /-- Where the part began that the scan is in. -/
  start : Nat
  /-- Where the parts before it begin and end. -/
  parts : List (Nat × Nat)

def Scan.begin : Scan := { place := 0, depth := 0, start := 0, parts := [] }

def Scan.step (separator : Char) (scan : Scan) (c : Char) : Scan :=
  let next := scan.place + c.utf8Size
  if opensBracket c || closesBracket c then
    { scan with place := next, depth := depthAfter scan.depth c }
  else if c = separator ∧ scan.depth = 0 then
    { scan with place := next, start := next, parts := scan.parts ++ [(scan.start, scan.place)] }
  else { scan with place := next }

/-- Where the parts of a text begin and end. -/
def places (separator : Char) (cs : List Char) : List (Nat × Nat) :=
  let scan := cs.foldl (Scan.step separator) .begin
  scan.parts ++ [(scan.start, byteCount cs)]

/-- The scan has read a text, found some parts in it, and is in the next one. -/
structure Scan.Tracks (separator : Char) (scan : Scan) (read : List Char)
    (parts : List (List Char)) (part : List Char) : Prop where
  place_eq : scan.place = byteCount read
  start_eq : ∃ done, read = done ++ part ∧ scan.start = byteCount done
  slices_eq (rest : List Char) : scan.parts.mapM (sliceAt? (read ++ rest)) = some parts
  split_eq (rest : List Char) : splitOutsideBrackets separator (read ++ rest) =
    parts ++ prepend part (splitFrom separator scan.depth rest)

namespace Scan.Tracks

variable {separator : Char} {scan : Scan} {read part : List Char} {parts : List (List Char)}

theorem begin (separator : Char) : Tracks separator .begin [] [] [] where
  place_eq := rfl
  start_eq := ⟨[], rfl, rfl⟩
  slices_eq _ := rfl
  split_eq _ := rfl

/-- The part that the scan is in ends where the scan stands. -/
theorem slices_append (tracks : scan.Tracks separator read parts part) (rest : List Char) :
    (scan.parts ++ [(scan.start, scan.place)]).mapM (sliceAt? (read ++ rest)) =
      some (parts ++ [part]) := by
  obtain ⟨done, rfl, start⟩ := tracks.start_eq
  rw [List.mapM_append, tracks.slices_eq, tracks.place_eq, start, List.mapM_cons, sliceAt?_append]
  rfl

/-- A character that is no cut goes into the part. -/
theorem keep (tracks : scan.Tracks separator read parts part) {c : Char} {depth : Nat}
    (kept : ∀ rest, splitFrom separator scan.depth (c :: rest) =
      consFirst c (splitFrom separator depth rest)) :
    Tracks separator { scan with place := scan.place + c.utf8Size, depth } (read ++ [c]) parts
      (part ++ [c]) where
  place_eq := by
    rw [byteCount_append, ← tracks.place_eq]
    rfl
  start_eq := by
    obtain ⟨done, rfl, start⟩ := tracks.start_eq
    exact ⟨done, List.append_assoc _ _ _, start⟩
  slices_eq rest := by
    rw [List.append_assoc]
    exact tracks.slices_eq _
  split_eq rest := by
    rw [List.append_assoc, List.singleton_append, tracks.split_eq, kept, prepend_append]
    rfl

/-- A character that is a cut belongs to no part. -/
theorem cut (tracks : scan.Tracks separator read parts part) {c : Char}
    (cuts : ∀ rest, splitFrom separator scan.depth (c :: rest) =
      [] :: splitFrom separator scan.depth rest) :
    Tracks separator
      { scan with
        place := scan.place + c.utf8Size
        start := scan.place + c.utf8Size
        parts := scan.parts ++ [(scan.start, scan.place)] }
      (read ++ [c]) (parts ++ [part]) [] where
  place_eq := by
    rw [byteCount_append, ← tracks.place_eq]
    rfl
  start_eq := by
    refine ⟨read ++ [c], (List.append_nil _).symm, ?_⟩
    rw [byteCount_append, ← tracks.place_eq]
    rfl
  slices_eq rest := by
    rw [List.append_assoc]
    exact tracks.slices_append _
  split_eq rest := by
    rw [List.append_assoc, List.singleton_append, tracks.split_eq, cuts, prepend_part,
      List.append_nil, List.append_assoc]
    rfl

theorem step (tracks : scan.Tracks separator read parts part) (c : Char) :
    ∃ parts part, (scan.step separator c).Tracks separator (read ++ [c]) parts part := by
  rw [Scan.step]
  split
  next bracket => exact ⟨_, _, tracks.keep fun rest => by rw [splitFrom, if_pos bracket]⟩
  next plain =>
    split
    next here =>
      exact ⟨_, _, tracks.cut fun rest => by rw [splitFrom, if_neg plain, if_pos here, here.2]⟩
    next other =>
      exact ⟨_, _, tracks.keep fun rest => by rw [splitFrom, if_neg plain, if_neg other]⟩

theorem foldl (tracks : scan.Tracks separator read parts part) (rest : List Char) :
    ∃ parts part,
      (rest.foldl (Scan.step separator) scan).Tracks separator (read ++ rest) parts part := by
  induction rest generalizing scan read parts part with
  | nil => exact ⟨parts, part, (List.append_nil read).symm ▸ tracks⟩
  | cons c rest ih =>
    obtain ⟨parts, part, next⟩ := tracks.step c
    rw [List.append_cons]
    exact ih next

end Scan.Tracks

/-- No slice is missing, and the slices are the parts. -/
theorem mapM_sliceAt?_places (separator : Char) (cs : List Char) :
    (places separator cs).mapM (sliceAt? cs) = some (splitOutsideBrackets separator cs) := by
  obtain ⟨parts, part, tracks⟩ := (Scan.Tracks.begin separator).foldl cs
  rw [List.nil_append] at tracks
  have slices := tracks.slices_append []
  have split := tracks.split_eq []
  rw [List.append_nil] at slices split
  rw [places, ← tracks.place_eq, slices, split, splitFrom, prepend_part, List.append_nil]

example : places ',' "é<,>,ß".toList = [(0, 5), (6, 8)] := by
  decide

end SteadyStore.TypeName
