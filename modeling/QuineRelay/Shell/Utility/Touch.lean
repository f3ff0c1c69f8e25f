import QuineRelay.Shell.Utility.Usage

/-!
# Touching files

The utility `touch` makes files that do not exist. The times of files are not
kept, so for a file that exists there is nothing to do.
-/

namespace QuineRelay.Shell.Utility

open Session

/-- The options of `touch`. -/
def touchOptions : OptionTable where
  short := [('a', .none), ('c', .none), ('d', .required), ('f', .none), ('h', .none), ('m', .none),
    ('r', .required), ('t', .required)]
  long := [
    { name := "time", rule := .required, letter := '3' }, { name := "no-create", letter := 'c' },
    { name := "date", rule := .required, letter := 'd' },
    { name := "reference", rule := .required, letter := 'r' },
    { name := "no-dereference", letter := 'h' }, { name := "help", letter := '1' },
    { name := "version", letter := '2' }]

/-- Whether a text is a stamp: month, day, hour and minute, with a year before and
seconds behind them if wanted. -/
def isStamp (text : Text) : Bool :=
  let main := text.takeWhile (· ≠ '.')
  let seconds := text.drop main.length
  let pair (index limit : Nat) : Bool :=
    (Text.digits? ((main.drop (main.length - index)).take 2)).any (· ≤ limit)
  (main.length = 8 || main.length = 10 || main.length = 12) && main.all Char.isDigit
    && pair 8 12 && pair 6 31 && pair 4 23 && pair 2 59
    && (seconds.isEmpty || (seconds.length = 3 && (seconds.drop 1).all Char.isDigit))

/-- Whether a text may be a date: it has a number in it or a word for a day. -/
def isDate (text : Text) : Bool :=
  text.isEmpty || text.any Char.isDigit
    || ["now", "today", "yesterday", "tomorrow"].any fun word => text.map Char.toLower = word.toList

/-- Makes a file if it does not exist; the result tells whether that was
possible. -/
def touchFile (usage : Usage) (name : Text) : Action Bool := do
  let session ← get
  let refuse (what : Text) (e : FileError) : Action Bool := do
    report "touch" (what ++ " " ++ quoted name ++ ": " ++ e.reason)
    return false
  if name = ['-'] then return true
  match Place.find session.files session.directory name with
  | .ok _ => return true
  | .error e =>
    if e = .missing && usage.has 'c' then return true
    else if usage.has 'c' || usage.has 'h' || name.getLast? = some '/' then
      refuse "setting times of" e
    else
      match session.openFile .append name with
      | .ok (_, session) =>
        set session
        return true
      | .error e => refuse "cannot touch" e

/-- Makes files that do not exist. -/
def touch (arguments : List Text) : Action Nat := do
  match read touchOptions arguments with
  | .error message => failUsage "touch" message
  | .ok usage =>
    let session ← get
    let badDate? :=
      (usage.options.find? fun option => option.1 = 't' && !isStamp option.2).or
        (usage.options.find? fun option => option.1 = 'd' && !isDate option.2)
    match badDate?, usage.operand? 'r' with
    | some option, _ => fail "touch" ("invalid date format " ++ quoted option.2)
    | none, reference? =>
      let missing? := reference?.bind fun reference =>
        match Place.find session.files session.directory reference with
        | .ok _ => none
        | .error e => some (quoted reference ++ ": " ++ e.reason)
      match missing? with
      | some reason => fail "touch" ("failed to get attributes of " ++ reason)
      | none =>
        if usage.operands.isEmpty then failUsage "touch" "missing file operand"
        else
          let results ← usage.operands.mapM (touchFile usage)
          return if results.all id then 0 else 1

end QuineRelay.Shell.Utility
