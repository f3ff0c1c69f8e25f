import QuineRelay.Shell.Number

/-!
# Signals

The signals of the system with their numbers, their names, and how the end of a
process by a signal is reported.
-/

namespace QuineRelay.Shell.Signal

/-- The names of the signals by number. The first stands for the end of a shell. -/
def names : List Text :=
  Text.splitOn ' ' ("EXIT HUP INT QUIT ILL TRAP ABRT BUS FPE KILL USR1 SEGV USR2 PIPE ALRM TERM "
    ++ "16 CHLD CONT STOP TSTP TTIN TTOU URG XCPU XFSZ VTALRM PROF WINCH IO PWR SYS 32 33 RTMIN "
    ++ "RTMIN+1 RTMIN+2 RTMIN+3 RTMIN+4 RTMIN+5 RTMIN+6 RTMIN+7 RTMIN+8 RTMIN+9 RTMIN+10 "
    ++ "RTMIN+11 RTMIN+12 RTMIN+13 RTMIN+14 RTMIN+15 RTMAX-14 RTMAX-13 RTMAX-12 RTMAX-11 "
    ++ "RTMAX-10 RTMAX-9 RTMAX-8 RTMAX-7 RTMAX-6 RTMAX-5 RTMAX-4 RTMAX-3 RTMAX-2 RTMAX-1 RTMAX")

/-- The signal that ends a process that is asked to stop. -/
def terminate : Nat := 15

/-- The signal that nothing can hold off. -/
def kill : Nat := 9

/-- The signal that tells of the end of a process. -/
def child : Nat := 17

/-- The reports of the signals that end a process. -/
def reports : List (Nat × Text) :=
  [(1, "Hangup"), (2, "Interrupt"), (3, "Quit"), (4, "Illegal instruction"),
    (5, "Trace/breakpoint trap"), (6, "Aborted"), (7, "Bus error"),
    (8, "Floating point exception"), (9, "Killed"), (10, "User defined signal 1"),
    (11, "Segmentation fault"), (12, "User defined signal 2"), (13, "Broken pipe"),
    (14, "Alarm clock"), (15, "Terminated"), (16, "Stack fault"), (24, "CPU time limit exceeded"),
    (25, "File size limit exceeded"), (26, "Virtual timer expired"),
    (27, "Profiling timer expired"), (29, "I/O possible"), (30, "Power failure"),
    (31, "Bad system call")]

/-- The signals that do nothing to a process that does not expect them. -/
def harmless : List Nat := [17, 18, 23, 28]

/-- The signals that stop a process for a while. -/
def pausing : List Nat := [19, 20, 21, 22]

/-- What the shell reports of a process that a signal ended, if anything. -/
def report? (number : Nat) : Option Text :=
  if number = 2 || number = 13 then none
  else
    (reports.lookup number).orElse fun _ =>
      some ("Real-time signal " ++ Text.decimal (number - 34))

/-- The number of a signal that is given by its number, or by its name if its number
is at least `least`. -/
def number? (least : Nat) (text : Text) : Option Nat :=
  match Text.digits? text with
  | some n => if n < names.length then some n else none
  | none =>
    let upper := text.map Char.toUpper
    (names.drop least).findIdx? (· = upper) |>.map (· + least)

end QuineRelay.Shell.Signal
