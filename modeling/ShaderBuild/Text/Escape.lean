/-! Sequences of characters that steer a terminal, and texts without them. -/

namespace ShaderBuild.Text

/-- Which part of a sequence with parameters comes next. -/
inductive Part where
  | entry
  | parameters
  | intermediates
  /-- Something stood where it may not; only the final character is awaited. -/
  | spoiled
  deriving DecidableEq, Repr

/-- Where a character of a text stands. -/
inductive Place where
  /-- In no sequence. -/
  | outside
  /-- Right after the escape character. -/
  | begun
  /-- In a sequence without parameters, before its final character. -/
  | selecting
  /-- In a control sequence. -/
  | control (part : Part)
  /-- In the head of a string for a device. -/
  | device (part : Part)
  /-- In a command for the operating system. -/
  | command
  /-- In a string that only its terminator ends. -/
  | string
  deriving DecidableEq, Repr

/-- An ASCII character that takes up room, or a space. -/
def isGraphic (c : Char) : Bool :=
  ' ' ≤ c && c ≤ '~'

/-- A control character that parts words or lines. -/
def isSpacing (c : Char) : Bool :=
  c = '\t' || c = '\n' || c = '\x0c' || c = '\r'

/-- A character that is shown outside all sequences. -/
def isShown (c : Char) : Bool :=
  isGraphic c || isSpacing c || 0x80 ≤ c.toNat

/-- A character of which some byte is the terminator of a string. -/
def endsString (c : Char) : Bool :=
  (String.utf8EncodeChar c).contains 0x9C

/-- The part after a graphic character, unless that character is the final one. -/
def Part.next (part : Part) (c : Char) : Option Part :=
  if '@' ≤ c then none
  else
    match part, decide ('0' ≤ c) with
    | .spoiled, _ => some .spoiled
    | _, false => some .intermediates
    | .entry, true => some .parameters
    | .parameters, true => if c < '<' then some .parameters else some .spoiled
    | .intermediates, true => some .spoiled

/-- The place after the character that follows an escape character or its selectors. -/
def Place.select (place : Place) (c : Char) : Place :=
  if c < '0' then .selecting
  else if place = .selecting then .outside
  else
    match c with
    | '[' => .control .entry
    | ']' => .command
    | 'P' => .device .entry
    | 'X' | '^' | '_' => .string
    | _ => .outside

/-- The place after a graphic character of a device's head. The string itself follows the final
character, or the first one that may not stand there. -/
def Part.nextOfDevice (part : Part) (c : Char) : Place :=
  match part.next c with
  | none | some .spoiled => .string
  | some part => .device part

namespace Place

/-- The place after a character within a short sequence or a control sequence, and whether the
character is shown. A blank breaks the sequence off. -/
def within (place : Place) (graphic : Place) (c : Char) : Place × Bool :=
  if isSpacing c then (.outside, true)
  else if isGraphic c then (graphic, false)
  else (place, false)

/-- The place after a character, and whether the character is shown. -/
def step (place : Place) (c : Char) : Place × Bool :=
  if c = '\x18' || c = '\x1a' then (.outside, false)
  else if c = '\x1b' then (.begun, false)
  else
    match place with
    | .outside => (.outside, isShown c)
    | .begun => within .begun (select .begun c) c
    | .selecting => within .selecting (select .selecting c) c
    | .control part => within (.control part) ((part.next c).elim .outside .control) c
    | .device part => (if isGraphic c then part.nextOfDevice c else .device part, false)
    | .command => (if c = '\x07' then .outside else .command, false)
    | .string => (if endsString c then .outside else .string, false)

/-- The characters that are shown of a text that begins at a place. -/
def shown (place : Place) : List Char → List Char
  | [] => []
  | c :: rest =>
    let (next, kept) := place.step c
    if kept then c :: shown next rest else shown next rest

end Place

/-- A text without the sequences that steer a terminal. -/
def withoutEscapes (text : List Char) : List Char :=
  Place.shown .outside text

/-- A text in a manner that a terminal knows by a number. -/
def marked (manner : String) (text : String) : String :=
  "\x1b[" ++ manner ++ "m" ++ text ++ "\x1b[0m"

/-- A shown character leaves a text outside all sequences. -/
theorem step_outside {c : Char} (plain : isShown c = true) :
    Place.step .outside c = (.outside, true) := by
  -- No character that breaks off or begins a sequence is shown.
  have canceled : c ≠ '\x18' := by rintro rfl; exact absurd plain (by decide)
  have substituted : c ≠ '\x1a' := by rintro rfl; exact absurd plain (by decide)
  have escape : c ≠ '\x1b' := by rintro rfl; exact absurd plain (by decide)
  simp [Place.step, canceled, substituted, escape, plain]

/-- A text of shown characters alone stays as it is. -/
theorem withoutEscapes_eq_self {text : List Char} (plain : ∀ c ∈ text, isShown c = true) :
    withoutEscapes text = text := by
  -- Each character is kept, and the next one stands outside again.
  induction text with
  | nil => rfl
  | cons c rest ih =>
    have tail := ih fun d inside => plain d (List.mem_cons_of_mem c inside)
    simp only [withoutEscapes] at tail
    simp [withoutEscapes, Place.shown, step_outside (plain c List.mem_cons_self), tail]

end ShaderBuild.Text
