import ShaderBuild.Number.Shortest
import ShaderBuild.Text.Hex

/-! The values of a settings document. -/

namespace ShaderBuild.Toml

/-- A day of the calendar. -/
structure Date where
  year : Nat
  month : Nat
  day : Nat
  deriving DecidableEq, Repr

/-- A time of day, with a fraction of a second in billionths. -/
structure Clock where
  hour : Nat
  minute : Nat
  second : Nat
  billionths : Nat := 0
  deriving DecidableEq, Repr

/-- The distance from universal time. -/
inductive Offset where
  | zulu
  | minutes (east : Bool) (amount : Nat)
  deriving DecidableEq, Repr

/-- A moment: a date, a time, or both with or without an offset. -/
inductive Moment where
  | day (date : Date)
  | time (clock : Clock)
  | dayTime (date : Date) (clock : Clock) (offset : Option Offset)
  deriving DecidableEq, Repr

/-- A number in decimal, with zeros in front up to a width. -/
def paddedDecimal (width value : Nat) : String :=
  let digits := (toString value).toList
  String.ofList (List.replicate (width - digits.length) '0' ++ digits)

/-- A fraction of a second without the zeros at its end. -/
def fractionText (billionths : Nat) : String :=
  if billionths = 0 then ""
  else
    let digits := (paddedDecimal 9 billionths).toList
    "." ++ String.ofList (digits.reverse.dropWhile (· = '0')).reverse

/-- The date with dashes. -/
def Date.render (date : Date) : String :=
  paddedDecimal 4 date.year ++ "-" ++ paddedDecimal 2 date.month ++ "-" ++ paddedDecimal 2 date.day

/-- The time with colons. -/
def Clock.render (clock : Clock) : String :=
  paddedDecimal 2 clock.hour ++ ":" ++ paddedDecimal 2 clock.minute ++ ":" ++
    paddedDecimal 2 clock.second ++ fractionText clock.billionths

/-- The offset as it stands after a time; no distance at all counts as one to the east. -/
def Offset.render : Offset → String
  | .zulu => "Z"
  | .minutes east amount =>
    (if east || amount = 0 then "+" else "-") ++ paddedDecimal 2 (amount / 60) ++ ":" ++
      paddedDecimal 2 (amount % 60)

/-- The canonical text of a moment. -/
def Moment.render : Moment → String
  | .day date => date.render
  | .time clock => clock.render
  | .dayTime date clock offset =>
    date.render ++ "T" ++ clock.render ++ (offset.map Offset.render).getD ""

/-- A value. The members of a table have distinct keys and stand in the order of the document. -/
inductive Value where
  | string (text : String)
  | integer (number : Int)
  /-- The bits of a number of double precision. -/
  | float (bits : Nat)
  | boolean (truth : Bool)
  | moment (moment : Moment)
  | array (items : List Value)
  | table (members : List (String × Value))
  deriving Repr

/-- The members of a table, key by key. -/
abbrev Members := List (String × Value)

mutual

/-- Whether two values are the same. -/
def Value.isSame : Value → Value → Bool
  | .string one, .string two => one == two
  | .integer one, .integer two => one == two
  | .float one, .float two => one == two
  | .boolean one, .boolean two => one == two
  | .moment one, .moment two => one == two
  | .array one, .array two => sameItems one two
  | .table one, .table two => sameMembers one two
  | _, _ => false

/-- Whether two arrays have the same items. -/
def sameItems : List Value → List Value → Bool
  | [], [] => true
  | one :: items, two :: others => one.isSame two && sameItems items others
  | _, _ => false

/-- Whether two tables have the same members in the same order. -/
def sameMembers : List (String × Value) → List (String × Value) → Bool
  | [], [] => true
  | (key, one) :: members, (other, two) :: others =>
    key == other && one.isSame two && sameMembers members others
  | _, _ => false

end

mutual

/-- Values that are found to be the same are equal, and no others. -/
theorem Value.isSame_iff (one two : Value) : one.isSame two = true ↔ one = two := by
  -- Scalars are compared as they are, and values of different kinds are told apart by their kind.
  cases one with
  | array items =>
    cases two with
    | array others => rw [Value.isSame, sameItems_iff, Value.array.injEq]
    | _ => simp [Value.isSame]
  | table members =>
    cases two with
    | table others => rw [Value.isSame, sameMembers_iff, Value.table.injEq]
    | _ => simp [Value.isSame]
  | _ => cases two <;> simp [Value.isSame]

/-- The same for the items of two arrays. -/
theorem sameItems_iff (items others : List Value) :
    sameItems items others = true ↔ items = others := by
  -- The items are compared from the front, as long as both have some.
  match items, others with
  | [], [] => simp [sameItems]
  | [], _ :: _ => simp [sameItems]
  | _ :: _, [] => simp [sameItems]
  | one :: items, two :: others =>
    rw [sameItems, Bool.and_eq_true, one.isSame_iff two, sameItems_iff items others,
      List.cons.injEq]

/-- The same for the members of two tables. -/
theorem sameMembers_iff (members others : List (String × Value)) :
    sameMembers members others = true ↔ members = others := by
  -- The same way, with the key of each member before its value.
  match members, others with
  | [], [] => simp [sameMembers]
  | [], _ :: _ => simp [sameMembers]
  | _ :: _, [] => simp [sameMembers]
  | (key, one) :: members, (other, two) :: others =>
    rw [sameMembers, Bool.and_eq_true, Bool.and_eq_true, beq_iff_eq, one.isSame_iff two,
      sameMembers_iff members others, List.cons.injEq, Prod.mk.injEq]

end

instance : DecidableEq Value := fun one two => decidable_of_iff _ (one.isSame_iff two)

end ShaderBuild.Toml
